import StorageTypes.Dictionary
import StorageTypes.Decimal.Numeral
import StorageTypes.Text.Lines
import StorageTypes.Text.Quoted

namespace StorageTypes.Json

inductive Value where
  | null
  | bool (b : Bool)
  | int (n : Int)
  | double (word : UInt64)
  | str (text : String)
  | arr (items : List Value)
  | obj (entries : List (String × Value))
  deriving Inhabited

namespace Value

def member? (name : String) : Value → Option Value
  | .obj entries => Dictionary.find? name entries
  | _ => none

/-- A value that says something: all but `null`, `false`, the zeros and what is empty. -/
def isGiven : Value → Bool
  | .null => false
  | .bool b => b
  | .int n => n != 0
  | .double word => !Decimal.isZero word
  | .str text => text != ""
  | .arr items => !items.isEmpty
  | .obj entries => !entries.isEmpty

/-- A value in place of one that says nothing. -/
def orElse (value fallback : Value) : Value :=
  if value.isGiven then value else fallback

def typeName : Value → String
  | .null => "NoneType"
  | .bool _ => "bool"
  | .int _ => "int"
  | .double _ => "float"
  | .str _ => "str"
  | .arr _ => "list"
  | .obj _ => "dict"

def messageWords : Decimal.Words := ⟨"inf", "nan"⟩

mutual

def literal : Value → String
  | .null => "None"
  | .bool true => "True"
  | .bool false => "False"
  | .int n => toString n
  | .double word => Decimal.numeral messageWords word
  | .str text => Text.quoted text
  | .arr items => "[" ++ Text.join ", " (literals items) ++ "]"
  | .obj entries => "\x7b" ++ Text.join ", " (literalEntries entries) ++ "\x7d"

def literals : List Value → List String
  | [] => []
  | value :: rest => literal value :: literals rest

def literalEntries : List (String × Value) → List String
  | [] => []
  | (name, value) :: rest => (Text.quoted name ++ ": " ++ literal value) :: literalEntries rest

end

def text : Value → String
  | .str text => text
  | value => literal value

end Value

def ofText? : Option String → Value
  | none => .null
  | some text => .str text

end StorageTypes.Json
