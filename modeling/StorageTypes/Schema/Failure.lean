import StorageTypes.Schema.Basic
import StorageTypes.Schema.Issue

namespace StorageTypes

open Json (Value)

/-- Why a schema cannot be used. -/
inductive SchemaError where
  | unknownCollection (name : String) (available : List String)
  | unresolvedKind (kind collection field : String)
  | unsupportedRelationship (collection : String) (reverse : Bool)
  | unusableKey (collection : String) (key : Value)
  | badDefinition (collection reason : String)
  | notInitialized
  | other (message : String) (context : Dictionary Value)

namespace SchemaError

def className : SchemaError → String
  | .unknownCollection .. => "UnknownCollectionError"
  | .unresolvedKind .. => "UnresolvedTypeError"
  | .unsupportedRelationship .. => "UnsupportedRelationshipError"
  | .unusableKey .. => "MissingPrimaryKeyError"
  | .badDefinition .. => "SchemaDefinitionError"
  | .notInitialized => "RegistryNotInitializedError"
  | .other .. => "TypegenError"

def message : SchemaError → String
  | .unknownCollection name available =>
    "Collection '" ++ name ++ "' not found. "
      ++ if available.isEmpty then "No collections registered."
        else "Available collections: " ++ Text.join ", " available
  | .unresolvedKind kind collection field =>
    "Could not translate type '" ++ kind ++ "' of field '" ++ collection ++ "." ++ field
      ++ "' to TypeScript type. Please use the 'field_type_map' option for custom fields."
  | .unsupportedRelationship collection reverse =>
    "Unsupported " ++ (if reverse then "reverse relationship" else "relationship")
      ++ " type detected in collection '" ++ collection
      ++ "'. Supported relationships: childOf, singleChildOf, connects"
  | .unusableKey collection key =>
    "Unsupported pkIndex " ++ key.literal ++ " found in collection '" ++ collection
      ++ "'. Only a single field name can be used as primary key."
  | .badDefinition collection reason =>
    "Invalid definition for collection '" ++ collection ++ "': " ++ reason
  | .notInitialized =>
    "Storage registry is not initialized. "
      ++ "Call finish_initialization() after registering collections."
  | .other message _ => message

def context : SchemaError → Dictionary Value
  | .unknownCollection name available =>
    [("collection_name", .str name), ("available_collections", .arr (available.map .str))]
  | .unresolvedKind kind collection field =>
    [("field_kind", .str kind), ("collection_name", .str collection), ("field_name", .str field)]
  | .unsupportedRelationship collection reverse =>
    [("collection_name", .str collection), ("reverse", .bool reverse)]
  | .unusableKey collection key => [("collection_name", .str collection), ("pk_index", key)]
  | .badDefinition collection reason =>
    [("collection_name", .str collection), ("reason", .str reason)]
  | .notInitialized => []
  | .other _ context => context

def toValue (error : SchemaError) : Value :=
  .obj [("error", .str error.className), ("message", .str error.message),
    ("context", .obj error.context)]

end SchemaError

/-- A value that is not of the form that a step needs, found too late to be reported as a fault of the
schema. -/
inductive Misfit where
  | noEntries (typeName : String)
  | notIterable (typeName : String)
  | notIndexable (typeName : String)
  | listTooShort
  | textTooShort
  | noItem (index : Nat)
  deriving DecidableEq, Repr

def Misfit.message : Misfit → String
  | .noEntries typeName => "'" ++ typeName ++ "' object has no attribute 'items'"
  | .notIterable typeName => "'" ++ typeName ++ "' object is not iterable"
  | .notIndexable typeName => "'" ++ typeName ++ "' object is not subscriptable"
  | .listTooShort => "list index out of range"
  | .textTooShort => "string index out of range"
  | .noItem index => toString index

/-- Why a definition is refused. -/
inductive DefinitionError where
  /-- The schema is at fault. -/
  | schema (error : SchemaError)
  /-- The parts of a collection do not fit its model. -/
  | model (collection : String) (issues : List Issue)
  /-- The parts of a relationship do not fit its model. -/
  | relationship (issues : List Issue)
  /-- A value has no form that can be read at all. -/
  | misfit (misfit : Misfit)

end StorageTypes
