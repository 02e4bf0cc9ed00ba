import StorageTypes.Json.Value
import StorageTypes.Terminal.Markup
import StorageTypes.Terminal.Wrap

namespace StorageTypes.Terminal

open Json (Value)

/-- Whether a value with a label fits on a line at a depth. Below the top there must be room for a
comma and a blank after it. -/
def fitsLine (depth : Nat) (label : String) (value : Value) : Bool :=
  4 * depth + Text.width (label ++ value.literal).toList + (if depth = 0 then 0 else 2) ≤ columns

def atDepth (depth : Nat) (text : String) : String :=
  String.ofList (List.replicate (4 * depth) ' ') ++ text

def commaUnless (last : Bool) : String :=
  if last then "" else ","

mutual

def valueLines (depth : Nat) (label after : String) : Value → List String
  | .arr (item :: rest) =>
    if fitsLine depth label (.arr (item :: rest)) then
      [atDepth depth (label ++ (Value.arr (item :: rest)).literal ++ after)]
    else
      atDepth depth (label ++ "[") :: valueLines (depth + 1) "" (commaUnless rest.isEmpty) item
        ++ itemLines (depth + 1) rest ++ [atDepth depth ("]" ++ after)]
  | .obj ((name, value) :: rest) =>
    if fitsLine depth label (.obj ((name, value) :: rest)) then
      [atDepth depth (label ++ (Value.obj ((name, value) :: rest)).literal ++ after)]
    else
      atDepth depth (label ++ "\x7b")
        :: valueLines (depth + 1) (Text.quoted name ++ ": ") (commaUnless rest.isEmpty) value
        ++ entryLines (depth + 1) rest ++ [atDepth depth ("\x7d" ++ after)]
  | value => [atDepth depth (label ++ value.literal ++ after)]

def itemLines (depth : Nat) : List Value → List String
  | [] => []
  | item :: rest =>
    valueLines depth "" (commaUnless rest.isEmpty) item ++ itemLines depth rest

def entryLines (depth : Nat) : List (String × Value) → List String
  | [] => []
  | (name, value) :: rest =>
    valueLines depth (Text.quoted name ++ ": ") (commaUnless rest.isEmpty) value
      ++ entryLines depth rest

end

/-- A value as the terminal prints it. Only a text that is no part of another value is read as markup. -/
def valueText [Markup] : Value → Except String String
  | .str text => (Markup.read text).map print
  | value => .ok (print (Text.join "\n" (valueLines 0 "" "" value)))

end StorageTypes.Terminal
