import StorageTypes.Json.Value

namespace StorageTypes.Json

def numberWords : Decimal.Words := ⟨"Infinity", "NaN"⟩

def unitEscape (n : Nat) : List Char :=
  ['\\', 'u'] ++ Text.hexDigits 4 n

/-- One character inside a written text; characters beyond sixteen bits take two escapes. -/
def writtenChar (c : Char) : List Char :=
  let n := c.toNat
  if n = 0x22 || n = 0x5c then ['\\', c]
  else if n = 0xa then ['\\', 'n']
  else if n = 0xd then ['\\', 'r']
  else if n = 0x9 then ['\\', 't']
  else if n = 0xc then ['\\', 'f']
  else if n = 0x8 then ['\\', 'b']
  else if 0x20 ≤ n && n < 0x7f then [c]
  else if n < 0x10000 then unitEscape n
  else
    let high := (n - 0x10000) / 0x400
    let low := (n - 0x10000) % 0x400
    unitEscape (0xd800 + high) ++ unitEscape (0xdc00 + low)

def writtenText (text : String) : String :=
  "\"" ++ String.ofList (text.toList.flatMap writtenChar) ++ "\""

/-- The line breaks and separators of a written form. -/
structure Layout where
  lineBreak : Nat → String
  afterComma : Nat → String

def Layout.line : Layout := ⟨fun _ => "", fun _ => " "⟩

def Layout.tree : Layout :=
  let next := fun level => "\n" ++ String.ofList (List.replicate (2 * level) ' ')
  ⟨next, next⟩

namespace Value

mutual

def write (layout : Layout) (level : Nat) : Value → String
  | .null => "null"
  | .bool true => "true"
  | .bool false => "false"
  | .int n => toString n
  | .double word => Decimal.numeral numberWords word
  | .str text => writtenText text
  | .arr [] => "[]"
  | .arr (item :: rest) =>
    "[" ++ layout.lineBreak (level + 1)
      ++ Text.join ("," ++ layout.afterComma (level + 1))
        (write layout (level + 1) item :: writeItems layout (level + 1) rest)
      ++ layout.lineBreak level ++ "]"
  | .obj [] => "\x7b\x7d"
  | .obj ((name, value) :: rest) =>
    "\x7b" ++ layout.lineBreak (level + 1)
      ++ Text.join ("," ++ layout.afterComma (level + 1))
        ((writtenText name ++ ": " ++ write layout (level + 1) value)
          :: writeEntries layout (level + 1) rest)
      ++ layout.lineBreak level ++ "\x7d"

def writeItems (layout : Layout) (level : Nat) : List Value → List String
  | [] => []
  | value :: rest => write layout level value :: writeItems layout level rest

def writeEntries (layout : Layout) (level : Nat) : List (String × Value) → List String
  | [] => []
  | (name, value) :: rest =>
    (writtenText name ++ ": " ++ write layout level value) :: writeEntries layout level rest

end

def compact (value : Value) : String :=
  value.write .line 0

def pretty (value : Value) : String :=
  value.write .tree 0

end Value

end StorageTypes.Json
