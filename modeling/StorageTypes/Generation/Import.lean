import StorageTypes.Generation.Options
import StorageTypes.Text.Uppercase

namespace StorageTypes

structure Import where
  collection : String
  path : String
  deriving DecidableEq, Repr

def Import.text (item : Import) : String :=
  "import \x7b " ++ Text.upperFirst item.collection ++ " \x7d from '" ++ item.path ++ "'"

/-- The first occurrences of the texts of a list that are not among those already seen. -/
def firstsBeyond (seen : List String) : List String → List String
  | [] => []
  | name :: rest =>
    if name ∈ seen then firstsBeyond seen rest else name :: firstsBeyond (name :: seen) rest

def firsts (names : List String) : List String :=
  firstsBeyond [] names

def importAll (resolver : ImportPath.Resolver) :
    List String → Except ImportPath.Fault (List Import)
  | [] => .ok []
  | name :: rest =>
    match resolver name with
    | .error fault => .error fault
    | .ok path => (importAll resolver rest).map (⟨name, path⟩ :: ·)

/-- The imports for the collections that declarations refer to, less those that are declared in the
same batch. -/
def importsFor (options : Options) (references : List String) :
    Except ImportPath.Fault (List Import) :=
  match options.resolver with
  | none => .ok []
  | some resolver =>
    importAll resolver ((firsts references).filter (!options.collections.contains ·))

end StorageTypes
