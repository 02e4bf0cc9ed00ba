import StorageTypes.ImportPath.Layout

namespace StorageTypes.ImportPath

/-- A placeholder as it is written: a name with steps into it, a conversion and a layout. -/
structure Placeholder where
  name : List Char
  conversion : Option Char := none
  layout : List Char := []
  deriving DecidableEq, Repr

/-- The name of a placeholder, the mark that ends it and what follows. Marks between brackets do not
count. -/
def scanName (bracket : Bool) : List Char → Except Fault (List Char × Char × List Char)
  | [] => .error .fieldUnclosed
  | c :: rest =>
    if !bracket && c == '\x7b' then .error .braceInName
    else if !bracket && (c == '\x7d' || c == ':' || c == '!') then .ok ([], c, rest)
    else
      let inside := if bracket then c != ']' else c == '['
      (scanName inside rest).map fun (name, mark, after) => (c :: name, mark, after)

/-- A layout up to the brace that closes the placeholder, and what follows. Braces nest. -/
def scanLayout (depth : Nat) : List Char → Except Fault (List Char × List Char)
  | [] => .error .layoutUnclosed
  | c :: rest =>
    if c == '\x7d' && depth == 0 then .ok ([], rest)
    else
      let inner := if c == '\x7b' then depth + 1 else if c == '\x7d' then depth - 1 else depth
      (scanLayout inner rest).map fun (layout, after) => (c :: layout, after)

def scanPlaceholder (text : List Char) : Except Fault (Placeholder × List Char) := do
  let (name, mark, rest) ← scanName false text
  if mark == '\x7d' then return (⟨name, none, []⟩, rest)
  else if mark == '!' then
    match rest with
    | [] => throw .conversionMissing
    | [_] => throw .layoutUnclosed
    | code :: next :: rest =>
      if next == '\x7d' then return (⟨name, some code, []⟩, rest)
      else if next == ':' then
        let (layout, rest) ← scanLayout 0 rest
        return (⟨name, some code, layout⟩, rest)
      else throw .conversionTail
  else
    let (layout, rest) ← scanLayout 0 rest
    return (⟨name, none, layout⟩, rest)

def take [Host] (aspect : Aspect Host.Thing) (access : Access) :
    Except Fault (Aspect Host.Thing) :=
  match aspect, access with
  | .text content, .member name => (Host.member content name).mapError .host
  | .text content, .place index =>
    match content[index]? with
    | some c => .ok (.text [c])
    | none => .error .outOfRange
  | .text _, .key _ => .error .indexByName
  | .thing itself, access => (Host.access itself access).mapError .host

/-- The steps from an aspect: a name after a point, a place or a name in brackets. Every step takes a
character, so the length of the steps is fuel enough. -/
def follow [Host] (fuel : Nat) (aspect : Aspect Host.Thing) (steps : List Char) :
    Except Fault (Aspect Host.Thing) :=
  match fuel, steps with
  | 0, _ => .ok aspect
  | _, [] => .ok aspect
  | fuel + 1, c :: rest =>
    if c == '.' then
      match rest.takeWhile fun c => c != '.' && c != '[' with
      | [] => .error .emptyStep
      | name =>
        match take aspect (.member (String.ofList name)) with
        | .ok next => follow fuel next (rest.dropWhile fun c => c != '.' && c != '[')
        | .error fault => .error fault
    else if c == '[' then
      match rest.dropWhile (· != ']') with
      | [] => .error .indexUnclosed
      | _ :: after =>
        match rest.takeWhile (· != ']') with
        | [] => .error .emptyStep
        | index =>
          if startsTooLong index then .error .numberTooLong
          else
            let access := if index.all Text.isDigit then .place (Text.digitsValue index)
              else .key (String.ofList index)
            match take aspect access with
            | .ok next => follow fuel next after
            | .error fault => .error fault
    else .error .indexTail

def collectionName : List Char := "collection".toList

def lookUp [Host] (collection name : List Char) : Except Fault (Aspect Host.Thing) :=
  let first := name.takeWhile fun c => c != '.' && c != '['
  let steps := name.dropWhile fun c => c != '.' && c != '['
  if first.isEmpty then .error (.unknownPosition 0)
  else if startsTooLong first then .error .numberTooLong
  else if first.all Text.isDigit then .error (.unknownPosition (Text.digitsValue first))
  else if first = collectionName then follow steps.length (.text collection) steps
  else .error (.unknownName (String.ofList first))

def Form.write (content : List Char) : Form → List Char
  | .plain => content
  | .quoted => Text.quotedBy Text.isPrintable content
  | .ascii => Text.quotedBy (fun c => decide (c.toNat < 0x80) && Text.isPrintable c) content

def textIn [Host] (form : Form) : Aspect Host.Thing → Except Fault (Aspect Host.Thing)
  | .text content => .ok (.text (form.write content))
  | .thing itself => ((Host.shown form itself).mapError .host).map .text

def convert [Host] (conversion : Option Char) (aspect : Aspect Host.Thing) :
    Except Fault (Aspect Host.Thing) :=
  match conversion with
  | none => .ok aspect
  | some code =>
    if code = '\x00' then .ok aspect
    else if code = 's' then textIn .plain aspect
    else if code = 'r' then textIn .quoted aspect
    else if code = 'a' then textIn .ascii aspect
    else .error (.unknownConversion code)

def present [Host] (layout : List Char) : Aspect Host.Thing → Except Fault (List Char)
  | .text content => (laidOut layout content).mapError .layout
  | .thing itself => (Host.laidOut itself layout).mapError .host

def isBrace (c : Char) : Bool :=
  c == '\x7b' || c == '\x7d'

def Placeholder.textOf [Host] (expandLayout : List Char → Except Fault (List Char))
    (collection : List Char) (placeholder : Placeholder) : Except Fault (List Char) := do
  let reached ← lookUp collection placeholder.name
  let aspect ← convert placeholder.conversion reached
  let layout ← if placeholder.layout.contains '\x7b' then expandLayout placeholder.layout
    else .ok placeholder.layout
  present layout aspect

/-- A template with its placeholders filled in from left to right. Every placeholder takes a
character, so the length of the template is fuel enough. -/
def fill [Host] (expandLayout : List Char → Except Fault (List Char)) (collection : List Char) :
    Nat → List Char → Except Fault (List Char)
  | 0, _ => .ok []
  | fuel + 1, template =>
    let plain := template.takeWhile (!isBrace ·)
    match template.dropWhile (!isBrace ·) with
    | [] => .ok plain
    | [brace] => .error (if brace == '\x7d' then .loneClose else .loneOpen)
    | brace :: next :: rest =>
      if brace == next then
        (fill expandLayout collection fuel rest).map fun after => plain ++ brace :: after
      else if brace == '\x7d' then .error .loneClose
      else do
        let (placeholder, rest) ← scanPlaceholder (next :: rest)
        let shown ← Placeholder.textOf expandLayout collection placeholder
        let after ← fill expandLayout collection fuel rest
        return plain ++ shown ++ after

/-- A template with its placeholders filled in; layouts may hold placeholders, to the given depth. -/
def expand [Host] (collection : List Char) : Nat → List Char → Except Fault (List Char)
  | 0, _ => .error .nestedTooDeep
  | depth + 1, template =>
    fill (expand collection depth) collection (template.length + 1) template

abbrev Resolver := String → Except Fault String

def pathOf [Host] (template : String) : Resolver := fun collection =>
  (expand collection.toList 2 template.toList).map String.ofList

def occursIn (piece : List Char) : List Char → Bool
  | [] => piece.isEmpty
  | c :: rest => piece.isPrefixOf (c :: rest) || occursIn piece rest

def mainPlaceholder : String := "\x7bcollection\x7d"

structure NoPlaceholder where
  template : String
  deriving DecidableEq, Repr

def NoPlaceholder.message (fault : NoPlaceholder) : String :=
  "Invalid import path template: '" ++ fault.template ++ "'. It must contain a "
    ++ mainPlaceholder ++ " placeholder, e.g. './" ++ mainPlaceholder ++ "'"

/-- The resolver of a template. No template, or an empty one, means that nothing is imported. -/
def resolver? [Host] : Option String → Except NoPlaceholder (Option Resolver)
  | none => .ok none
  | some template =>
    if template = "" then .ok none
    else if occursIn mainPlaceholder.toList template.toList then .ok (some (pathOf template))
    else .error ⟨template⟩

end StorageTypes.ImportPath
