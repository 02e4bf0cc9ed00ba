import StorageTypes.Dictionary

namespace StorageTypes

/-- How generated primary keys are represented: as texts, as numbers, or as either. -/
inductive KeyStrategy where
  | text
  | number
  | either
  deriving DecidableEq, Repr

def KeyStrategy.name : KeyStrategy → String
  | .text => "string"
  | .number => "int"
  | .either => "generic"

def KeyStrategy.all : List KeyStrategy := [.text, .number, .either]

def KeyStrategy.ofName? (word : String) : Option KeyStrategy :=
  KeyStrategy.all.find? (·.name == word)

namespace FieldKind

def generatedKey : String := "auto-pk"

def foreignKey : String := "foreign-key"

def known : List String :=
  ["string", "text", "json", "datetime", "timestamp", "boolean", "float", "int", generatedKey,
    foreignKey]

end FieldKind

structure Field where
  kind : String
  optional : Bool := false
  deriving DecidableEq, Repr

/-- The source collection refers to one record of the target collection. The target shows its source
records under the reverse alias: one of them if `single`, else all. -/
structure ChildOf where
  forwardAlias : String
  reverseAlias : String
  single : Bool
  source : String
  target : String
  fieldName : Option String
  deriving DecidableEq, Repr

/-- A junction collection connects the records of two collections. -/
structure Connects where
  left : String
  right : String
  leftAlias : String
  rightAlias : String
  source : String
  deriving DecidableEq, Repr

inductive Relationship where
  | childOf (link : ChildOf)
  | connects (junction : Connects)
  deriving DecidableEq, Repr

namespace Relationship

def source : Relationship → String
  | .childOf link => link.source
  | .connects junction => junction.source

def forwardAliases : Relationship → List String
  | .childOf link => [link.forwardAlias]
  | .connects junction => [junction.leftAlias, junction.rightAlias]

end Relationship

/-- The primary key of a collection: absent, one field name, or several. -/
inductive PrimaryKey where
  | absent
  | single (field : String)
  | composite (fields : List String)
  deriving DecidableEq, Repr

/-- A collection. The reverse relationships come from the collections that point at this one. -/
structure Collection where
  name : String
  key : PrimaryKey := .absent
  fields : Dictionary Field := []
  relationships : List Relationship := []
  reverse : Dictionary Relationship := []
  version : Option String := none
  description : Option String := none
  deriving DecidableEq, Repr

namespace Collection

def hasRelationships (collection : Collection) : Bool :=
  !collection.relationships.isEmpty || !collection.reverse.isEmpty

def forwardAliases (collection : Collection) : List String :=
  collection.relationships.flatMap (·.forwardAliases)

end Collection

end StorageTypes
