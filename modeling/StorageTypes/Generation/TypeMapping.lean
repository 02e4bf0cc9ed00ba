import StorageTypes.Dictionary
import StorageTypes.Text.Blank

namespace StorageTypes

structure BadTypeMapping where
  spec : String
  deriving DecidableEq, Repr

def BadTypeMapping.message (fault : BadTypeMapping) : String :=
  "Invalid type mapping: '" ++ fault.spec ++ "'. Expected format: kind=type"

namespace TypeMapping

/-- A kind and its type, parted by the first equals sign; blanks around either do not count, and
neither may be empty. -/
def parseChars (spec : List Char) : Option (List Char × List Char) :=
  match spec.dropWhile (· != '=') with
  | [] => none
  | _ :: after =>
    let kind := Text.strip (spec.takeWhile (· != '='))
    let type := Text.strip after
    if kind.isEmpty || type.isEmpty then none else some (kind, type)

def parse (spec : String) : Except BadTypeMapping (String × String) :=
  match parseChars spec.toList with
  | some (kind, type) => .ok (String.ofList kind, String.ofList type)
  | none => .error ⟨spec⟩

def parsePairs : List String → Except BadTypeMapping (List (String × String))
  | [] => .ok []
  | spec :: rest =>
    match parse spec with
    | .error fault => .error fault
    | .ok pair => (parsePairs rest).map (pair :: ·)

/-- The overrides of a list, the last of each kind at the place of the first. -/
def parseAll (specs : List String) : Except BadTypeMapping (Dictionary String) :=
  (parsePairs specs).map Dictionary.ofList

end TypeMapping

end StorageTypes
