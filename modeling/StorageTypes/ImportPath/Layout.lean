import StorageTypes.ImportPath.Fault
import StorageTypes.Text.Digit

namespace StorageTypes.ImportPath

inductive Side where
  | left
  | right
  | middle
  | signAware
  deriving DecidableEq, Repr

def Side.ofMark? (c : Char) : Option Side :=
  if c = '<' then some .left
  else if c = '>' then some .right
  else if c = '^' then some .middle
  else if c = '=' then some .signAware
  else none

/-- The parts of a layout. -/
structure Layout where
  fill : Char := ' '
  side : Side := .left
  sign : Option Char := none
  negativeZero : Bool := false
  alternate : Bool := false
  width : Option Nat := none
  separator : Option Char := none
  places : Option Nat := none
  code : Char := 's'
  deriving DecidableEq, Repr

def numberLimit : Nat := 9223372036854775807

def startsTooLong (text : List Char) : Bool :=
  numberLimit < Text.digitsValue (text.takeWhile Text.isDigit)

def takeNumber (text : List Char) : Except LayoutFault (Option Nat × List Char) :=
  if startsTooLong text then .error .numberTooLong
  else
    match text.takeWhile Text.isDigit with
    | [] => .ok (none, text)
    | digits => .ok (some (Text.digitsValue digits), text.dropWhile Text.isDigit)

/-- A character at the start of a text, if it passes a test, and the rest. -/
def takeMark (test : Char → Bool) : List Char → Option Char × List Char
  | [] => (none, [])
  | c :: rest => if test c then (some c, rest) else (none, c :: rest)

def takeSide (text : List Char) : Option Char × Option Side × List Char :=
  let plain := fun (text : List Char) =>
    match text with
    | c :: rest =>
      match Side.ofMark? c with
      | some side => (none, some side, rest)
      | none => (none, none, text)
    | [] => (none, none, text)
  match text with
  | fill :: mark :: rest =>
    match Side.ofMark? mark with
    | some side => (some fill, some side, rest)
    | none => plain text
  | _ => plain text

def takeSeparator (text : List Char) : Except LayoutFault (Option Char × List Char) :=
  let (comma, text) := takeMark (· == ',') text
  let (underscore, text) := takeMark (· == '_') text
  let after := (takeMark (· == ',') text).1
  match comma, underscore, after with
  | some _, some _, _ => .error .commaAndUnderscore
  | none, some _, some _ => .error .commaAndUnderscore
  | some c, none, _ => .ok (some c, text)
  | none, some c, none => .ok (some c, text)
  | none, none, _ => .ok (none, text)

def takePlaces (text : List Char) : Except LayoutFault (Option Nat × List Char) :=
  match takeMark (· == '.') text with
  | (none, _) => .ok (none, text)
  | (some _, rest) =>
    match takeNumber rest with
    | .error fault => .error fault
    | .ok (none, _) => .error .placesMissing
    | .ok (some places, rest) => .ok (some places, rest)

def groupable (mark code : Char) : Bool :=
  "defgEG%F\x00".toList.contains code || (mark == '_' && "boxX".toList.contains code)

def Layout.read (text : List Char) : Except LayoutFault Layout := do
  let (fill, side, rest) := takeSide text
  let (sign, rest) := takeMark (fun c => c == ' ' || c == '+' || c == '-') rest
  let (negativeZero, rest) := takeMark (· == 'z') rest
  let (alternate, rest) := takeMark (· == '#') rest
  let (zero, rest) := if fill.isNone then takeMark (· == '0') rest else (none, rest)
  let (width, rest) ← takeNumber rest
  let (separator, rest) ← takeSeparator rest
  let (places, rest) ← takePlaces rest
  let code ← match rest with
    | [] => .ok 's'
    | [code] => .ok code
    | _ => .error (.unreadable (String.ofList text))
  match separator with
  | some mark => if !groupable mark code then throw (.separator mark code)
  | none => pure ()
  return ⟨if zero.isSome then '0' else fill.getD ' ', side.getD .left, sign, negativeZero.isSome,
    alternate.isSome, width, separator, places, code⟩

def Layout.allowed [Host] (layout : Layout) : Except LayoutFault Unit :=
  if layout.code ≠ 's' then .error (.unknownCode layout.code)
  else if layout.sign = some ' ' then .error .blankSign
  else if layout.sign.isSome then .error .sign
  else if layout.negativeZero then .error .negativeZero
  else if layout.alternate then .error .alternate
  else if layout.side = .signAware then .error .signAware
  else if Host.room < layout.width.getD 0 then .error .tooWide
  else .ok ()

def Layout.apply (layout : Layout) (text : List Char) : List Char :=
  let kept := match layout.places with
    | some places => text.take places
    | none => text
  let missing := (layout.width.getD 0) - kept.length
  let before := match layout.side with
    | .right => missing
    | .middle => missing / 2
    | _ => 0
  List.replicate before layout.fill ++ kept ++ List.replicate (missing - before) layout.fill

/-- A text laid out as written; an empty layout leaves it alone. -/
def laidOut [Host] (layout text : List Char) : Except LayoutFault (List Char) :=
  if layout.isEmpty then .ok text
  else do
    let parts ← Layout.read layout
    parts.allowed
    return parts.apply text

end StorageTypes.ImportPath
