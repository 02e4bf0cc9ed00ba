import StorageTypes.Generation.Member
import StorageTypes.Registry.Basic

namespace StorageTypes

/-- The members that declare a collection. -/
structure Declaration where
  collection : String
  hasRelationships : Bool
  key : KeyMember
  fields : List FieldMember
  forward : List ForwardMember
  reverse : List ReverseMember
  deriving DecidableEq, Repr

def noneSelected : String := "null"

def aliasUnion (aliases : List String) : String :=
  Text.join " | " (aliases.map (fun name => "'" ++ name ++ "'") ++ [noneSelected])

def parameterList (optionalKey hasRelationships : Bool) (forward reverse : List String) :
    List String :=
  (if optionalKey then [keyParameter ++ " extends boolean = true"] else [])
    ++ if hasRelationships then
        (forwardParameter ++ " extends " ++ aliasUnion forward ++ " = " ++ noneSelected)
          :: if reverse.isEmpty then []
            else [reverseParameter ++ " extends " ++ aliasUnion reverse ++ " = " ++ noneSelected]
      else []

/-- The clause of the type parameters; without parameters there is none. -/
def typeParameters (optionalKey hasRelationships : Bool) (forward reverse : List String) : String :=
  let parameters := parameterList optionalKey hasRelationships forward reverse
  if parameters.isEmpty then "" else "<" ++ Text.join ", " parameters ++ ">"

namespace Declaration

def parameters (declaration : Declaration) : String :=
  typeParameters declaration.key.optional declaration.hasRelationships
    (declaration.forward.map (·.forwardAlias)) (declaration.reverse.map (·.reverseAlias))

def header (declaration : Declaration) : String :=
  "export type " ++ Text.upperFirst declaration.collection ++ declaration.parameters ++ " ="

def segments (declaration : Declaration) : List String :=
  [declaration.key.text] ++ (Text.block (declaration.fields.map (·.text))).toList
    ++ (Text.block (declaration.forward.map (·.text))).toList
    ++ declaration.reverse.map (·.text)

def text (declaration : Declaration) : String :=
  declaration.header ++ "\n" ++ Text.indent (Text.join " &\n" declaration.segments)

def references (declaration : Declaration) : List String :=
  declaration.forward.map (·.target) ++ declaration.reverse.map (·.source)

def ofCollection (collection : Collection) (options : Options) (keyTypes : KeyTypes) :
    Logged SchemaError Declaration :=
  (Logged.ofExcept (KeyMember.ofCollection collection options)).bind fun key =>
  (Logged.ofExcept (FieldMember.ofFields collection options collection.fields)).bind fun fields =>
  (membersOf (ForwardMember.ofRelationship collection.name keyTypes)
    collection.relationships).bind fun forward =>
  (membersOf (fun entry => ReverseMember.ofRelationship collection.name entry.1 entry.2)
    collection.reverse).map fun reverse =>
  ⟨collection.name, collection.hasRelationships, key, fields, forward, reverse⟩

end Declaration

end StorageTypes
