
namespace StorageTypes.Text

/-- A name without the line break at its very end, which the plural rules look past. -/
def dropFinalBreak (name : List Char) : List Char :=
  match name.reverse with
  | '\n' :: rest => rest.reverse
  | _ => name

def isVowel (c : Char) : Bool :=
  c == 'a' || c == 'e' || c == 'i' || c == 'o' || c == 'u'

def endsInConsonantY (name : List Char) : Bool :=
  match name.reverse with
  | 'y' :: c :: _ => !isVowel c
  | _ => false

def endsInSibilant (name : List Char) : Bool :=
  match name.reverse with
  | 's' :: _ => true
  | 'x' :: _ => true
  | 'z' :: _ => true
  | 'h' :: 'c' :: _ => true
  | 'h' :: 's' :: _ => true
  | _ => false

/-- The endings are judged on the name with and without a final line break; the ending is always
put after the whole name, or in place of its last character. -/
def pluralChars (name : List Char) : List Char :=
  if endsInConsonantY name || endsInConsonantY (dropFinalBreak name) then
    name.dropLast ++ ['i', 'e', 's']
  else if endsInSibilant name || endsInSibilant (dropFinalBreak name) then name ++ ['e', 's']
  else name ++ ['s']

def pluralize (name : String) : String :=
  String.ofList (pluralChars name.toList)

end StorageTypes.Text
