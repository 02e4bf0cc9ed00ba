import StorageTypes.Json.Value

namespace StorageTypes.Json

inductive Complaint where
  | valueExpected
  | nameExpected
  | colonExpected
  | commaExpected
  | extraData
  | badEscape
  | badUnicodeEscape
  | unterminatedText
  | controlCharacter
  | byteOrderMark
  | tooManyDigits (count : Nat)
  | arrayTooDeep
  | objectTooDeep
  deriving DecidableEq, Repr

/-- A complaint with the number of characters from its place to the end of the text. -/
structure Fault where
  complaint : Complaint
  remaining : Nat
  deriving DecidableEq, Repr

def complain {α : Type} (complaint : Complaint) (rest : List Char) : Except Fault α :=
  .error ⟨complaint, rest.length⟩

def skipBlanks : List Char → List Char
  | [] => []
  | c :: rest =>
    if c = ' ' || c = '\n' || c = '\r' || c = '\t' then skipBlanks rest else c :: rest

def hexValue? (c : Char) : Option Nat :=
  let n := c.toNat
  if 0x30 ≤ n && n ≤ 0x39 then some (n - 0x30)
  else if 0x61 ≤ n && n ≤ 0x66 then some (n - 0x61 + 10)
  else if 0x41 ≤ n && n ≤ 0x46 then some (n - 0x41 + 10)
  else none

def hexNumber? (digits : List Char) : Option Nat :=
  digits.foldlM (fun n c => (hexValue? c).map (16 * n + ·)) 0

def escapeValue? (c : Char) : Option Nat :=
  if c = '"' || c = '\\' || c = '/' then some c.toNat
  else if c = 'b' then some 0x8
  else if c = 'f' then some 0xc
  else if c = 'n' then some 0xa
  else if c = 'r' then some 0xd
  else if c = 't' then some 0x9
  else none

/-- The code points and sixteen-bit units of a text after its opening quote, and what follows its
closing quote. An escape by number needs a character behind it. -/
def readUnits (opening : Nat) : List Char → Except Fault (List Nat × List Char)
  | [] => .error ⟨.unterminatedText, opening⟩
  | c :: rest =>
    if c = '"' then .ok ([], rest)
    else if c = '\\' then
      match rest with
      | [] => .error ⟨.unterminatedText, opening⟩
      | 'u' :: d₁ :: d₂ :: d₃ :: d₄ :: more =>
        match hexNumber? [d₁, d₂, d₃, d₄], more.isEmpty with
        | some n, false => (readUnits opening more).map fun (units, after) => (n :: units, after)
        | _, _ => complain .badUnicodeEscape rest
      | e :: more =>
        if e = 'u' then complain .badUnicodeEscape rest
        else
          match escapeValue? e with
          | some n => (readUnits opening more).map fun (units, after) => (n :: units, after)
          | none => complain .badEscape (c :: rest)
    else if c.toNat < 0x20 then complain .controlCharacter (c :: rest)
    else (readUnits opening rest).map fun (units, after) => (c.toNat :: units, after)

def isHigh (n : Nat) : Bool :=
  0xd800 ≤ n && n < 0xdc00

def isLow (n : Nat) : Bool :=
  0xdc00 ≤ n && n < 0xe000

/-- The character of a unit. A half that stands alone is no character and is replaced. -/
def charOfUnit (n : Nat) : Char :=
  if isHigh n || isLow n then Char.ofNat 0xfffd else Char.ofNat n

/-- Characters of code points and units, where two halves in their order make one character. -/
def charsOfUnits : List Nat → List Char
  | [] => []
  | [n] => [charOfUnit n]
  | n :: m :: rest =>
    if isHigh n && isLow m then
      Char.ofNat (0x10000 + (n - 0xd800) * 0x400 + (m - 0xdc00)) :: charsOfUnits rest
    else charOfUnit n :: charsOfUnits (m :: rest)

def readText (rest : List Char) : Except Fault (String × List Char) :=
  (readUnits (rest.length + 1) rest).map fun (units, after) =>
    (String.ofList (charsOfUnits units), after)

def isDigit (c : Char) : Bool :=
  decide ('0' ≤ c) && decide (c ≤ '9')

def digitsNumber (digits : List Char) : Nat :=
  digits.foldl (fun n c => 10 * n + (c.toNat - 0x30)) 0

def readFraction : List Char → List Char × List Char
  | '.' :: rest =>
    match rest.takeWhile isDigit with
    | [] => ([], '.' :: rest)
    | digits => (digits, rest.dropWhile isDigit)
  | rest => ([], rest)

def readExponent (text : List Char) : Option Int × List Char :=
  match text with
  | c :: rest =>
    if c = 'e' || c = 'E' then
      let negative := rest.head? == some '-'
      let body := if negative || rest.head? == some '+' then rest.tail else rest
      match body.takeWhile isDigit with
      | [] => (none, text)
      | digits =>
        let size : Int := digitsNumber digits
        (some (if negative then -size else size), body.dropWhile isDigit)
    else (none, text)
  | [] => (none, text)

def readWhole : List Char → Option (List Char × List Char)
  | '0' :: rest => some (['0'], rest)
  | text =>
    match text.takeWhile isDigit with
    | [] => none
    | digits => some (digits, text.dropWhile isDigit)

def digitLimit : Nat := 4300

def readNumber (negative : Bool) (text : List Char) : Option (Except Fault (Value × List Char)) :=
  (readWhole text).map fun (whole, afterWhole) =>
    let (fraction, afterFraction) := readFraction afterWhole
    let (exponent, rest) := readExponent afterFraction
    if fraction.isEmpty && exponent.isNone then
      if digitLimit < whole.length then complain (.tooManyDigits whole.length) text
      else
        let n : Int := digitsNumber whole
        .ok (.int (if negative then -n else n), rest)
    else
      let digits := digitsNumber (whole ++ fraction)
      .ok (.double (Decimal.ofDecimal negative digits (exponent.getD 0 - fraction.length)), rest)

def afterWord? (word : String) (text : List Char) : Option (List Char) :=
  if word.toList.isPrefixOf text then some (text.drop word.length) else none

def readPlain (text : List Char) : Except Fault (Value × List Char) :=
  match text with
  | [] => complain .valueExpected text
  | c :: rest =>
    if c = '-' then
      match afterWord? "Infinity" rest with
      | some after => .ok (.double (Decimal.infinityWord true), after)
      | none => (readNumber true rest).getD (complain .valueExpected text)
    else
      match afterWord? "null" text, afterWord? "true" text, afterWord? "false" text,
          afterWord? "NaN" text, afterWord? "Infinity" text with
      | some after, _, _, _, _ => .ok (.null, after)
      | _, some after, _, _, _ => .ok (.bool true, after)
      | _, _, some after, _, _ => .ok (.bool false, after)
      | _, _, _, some after, _ => .ok (.double Decimal.notANumberWord, after)
      | _, _, _, _, some after => .ok (.double (Decimal.infinityWord false), after)
      | none, none, none, none, none =>
        (readNumber false text).getD (complain .valueExpected text)

/-- The items of an array up to its closing bracket, each read by `readOne`. Every step takes a
character, so the length of the text is fuel enough. -/
def readItems (readOne : List Char → Except Fault (Value × List Char)) :
    Nat → List Char → Except Fault (List Value × List Char)
  | 0, text => complain .commaExpected text
  | fuel + 1, text =>
    match readOne text with
    | .error fault => .error fault
    | .ok (value, after) =>
      match skipBlanks after with
      | ']' :: rest => .ok ([value], rest)
      | ',' :: rest =>
        (readItems readOne fuel (skipBlanks rest)).map fun (values, tail) => (value :: values, tail)
      | rest => complain .commaExpected rest

def readEntries (readOne : List Char → Except Fault (Value × List Char)) :
    Nat → List Char → Except Fault (List (String × Value) × List Char)
  | 0, text => complain .nameExpected text
  | fuel + 1, text =>
    match text with
    | '"' :: inside =>
      match readText inside with
      | .error fault => .error fault
      | .ok (name, afterName) =>
        match skipBlanks afterName with
        | ':' :: beforeValue =>
          match readOne (skipBlanks beforeValue) with
          | .error fault => .error fault
          | .ok (value, after) =>
            match skipBlanks after with
            | '\x7d' :: rest => .ok ([(name, value)], rest)
            | ',' :: rest =>
              (readEntries readOne fuel (skipBlanks rest)).map fun (pairs, tail) =>
                ((name, value) :: pairs, tail)
            | rest => complain .commaExpected rest
        | rest => complain .colonExpected rest
    | _ => complain .nameExpected text

/-- A value and the rest of the text. The second argument says how deep arrays and objects may nest;
the first bounds the number of their members, for which the length of the text is enough. -/
def readValue (size : Nat) : Nat → List Char → Except Fault (Value × List Char)
  | 0, text =>
    match text with
    | '"' :: rest => (readText rest).map fun (content, after) => (.str content, after)
    | '[' :: _ => complain .arrayTooDeep text
    | '\x7b' :: _ => complain .objectTooDeep text
    | _ => readPlain text
  | depth + 1, text =>
    match text with
    | '"' :: rest => (readText rest).map fun (content, after) => (.str content, after)
    | '[' :: rest =>
      match skipBlanks rest with
      | ']' :: after => .ok (.arr [], after)
      | items =>
        (readItems (readValue size depth) size items).map fun (values, after) =>
          (.arr values, after)
    | '\x7b' :: rest =>
      match skipBlanks rest with
      | '\x7d' :: after => .ok (.obj [], after)
      | entries =>
        (readEntries (readValue size depth) size entries).map fun (pairs, after) =>
          (.obj (Dictionary.ofList pairs), after)
    | _ => readPlain text

/-- A complaint with its place in the text: the offset, the line and the column. -/
structure ReadError where
  complaint : Complaint
  offset : Nat
  line : Nat
  column : Nat
  deriving DecidableEq, Repr

/-- The place of a fault: lines and columns count from one, the offset from zero. -/
def ReadError.ofFault (text : List Char) (fault : Fault) : ReadError :=
  let offset := text.length - fault.remaining
  let before := text.take offset
  let lastLine := before.reverse.takeWhile (· != '\n')
  ⟨fault.complaint, offset, before.count '\n' + 1, lastLine.length + 1⟩

def Complaint.wording : Complaint → String
  | .valueExpected => "Expecting value"
  | .nameExpected => "Expecting property name enclosed in double quotes"
  | .colonExpected => "Expecting ':' delimiter"
  | .commaExpected => "Expecting ',' delimiter"
  | .extraData => "Extra data"
  | .badEscape => "Invalid \\escape"
  | .badUnicodeEscape => "Invalid \\uXXXX escape"
  | .unterminatedText => "Unterminated string starting at"
  | .controlCharacter => "Invalid control character at"
  | .byteOrderMark => "Unexpected UTF-8 BOM (decode using utf-8-sig)"
  | .tooManyDigits count =>
    "Exceeds the limit (" ++ toString digitLimit
      ++ " digits) for integer string conversion: value has " ++ toString count
      ++ " digits; use sys.set_int_max_str_digits() to increase the limit"
  | .arrayTooDeep =>
    "maximum recursion depth exceeded while decoding a JSON array from a unicode string"
  | .objectTooDeep =>
    "maximum recursion depth exceeded while decoding a JSON object from a unicode string"

def Complaint.isLimit : Complaint → Bool
  | .tooManyDigits _ | .arrayTooDeep | .objectTooDeep => true
  | _ => false

def ReadError.message (error : ReadError) : String :=
  if error.complaint.isLimit then error.complaint.wording
  else
    error.complaint.wording ++ ": line " ++ toString error.line ++ " column "
      ++ toString error.column ++ " (char " ++ toString error.offset ++ ")"

def nestingLimit : Nat := 980

def readAll (depth : Nat) (text : List Char) : Except Fault Value :=
  if text.head? == some (Char.ofNat 0xfeff) then complain .byteOrderMark text
  else
    match readValue text.length depth (skipBlanks text) with
    | .error fault => .error fault
    | .ok (value, after) =>
      match skipBlanks after with
      | [] => .ok value
      | rest => complain .extraData rest

def readWithin (depth : Nat) (text : String) : Except ReadError Value :=
  let chars := text.toList
  (readAll depth chars).mapError (ReadError.ofFault chars)

def read (text : String) : Except ReadError Value :=
  readWithin nestingLimit text

end StorageTypes.Json
