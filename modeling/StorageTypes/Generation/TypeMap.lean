import StorageTypes.Schema.Failure
import StorageTypes.Schema.Model

namespace StorageTypes

open Json (Value)

namespace TypeMap

def defaults : Dictionary String :=
  [("string", "string"), ("text", "string"), ("json", "any"), ("datetime", "Date"),
    ("timestamp", "number"), ("boolean", "boolean"), ("float", "number"), ("int", "number")]

def merged (overrides : Dictionary String) : Dictionary String :=
  Dictionary.putAll defaults overrides

/-- The type of a kind; the empty text for a kind that has none. -/
def typeOf (overrides : Dictionary String) (kind : String) : String :=
  (Dictionary.find? kind (merged overrides)).getD ""

/-- The type of generated keys. Keys that may be either are of the type of whole numbers or of the
type of texts. -/
def generatedKeyType (overrides : Dictionary String) : KeyStrategy → String
  | .text => typeOf overrides KeyStrategy.text.name
  | .number => typeOf overrides KeyStrategy.number.name
  | .either =>
    typeOf overrides KeyStrategy.number.name ++ " | " ++ typeOf overrides KeyStrategy.text.name

def declaredType (overrides : Dictionary String) (collection field kind : String) :
    Except SchemaError String :=
  let type := typeOf overrides kind
  if type = "" then .error (.unresolvedKind kind collection field) else .ok type

def fieldType (overrides : Dictionary String) (strategy : KeyStrategy)
    (collection field kind : String) : Except SchemaError String :=
  if kind = FieldKind.generatedKey then .ok (generatedKeyType overrides strategy)
  else declaredType overrides collection field kind

def keyField (collection : Collection) : Except SchemaError String :=
  match collection.key with
  | .single field =>
    if field = "" then .error (.unusableKey collection.name collection.key.toValue) else .ok field
  | key => .error (.unusableKey collection.name key.toValue)

/-- The type of the primary key of a collection; a key that is not declared is a generated one. -/
def keyType (overrides : Dictionary String) (strategy : KeyStrategy) (collection : Collection) :
    Except SchemaError String :=
  match keyField collection with
  | .error e => .error e
  | .ok field =>
    match Dictionary.find? field collection.fields with
    | none => .ok (generatedKeyType overrides strategy)
    | some declared => fieldType overrides strategy collection.name field declared.kind

end TypeMap

inductive TypeError where
  | strategy (word : Value)
  | schema (error : SchemaError)

def unknownStrategyMessage (word : Value) : String :=
  word.literal ++ " is not a valid PkStrategy"

namespace TypeMap

def strategyOf (word : Value) : Except TypeError KeyStrategy :=
  match word with
  | .str name =>
    match KeyStrategy.ofName? name with
    | some strategy => .ok strategy
    | none => .error (.strategy word)
  | other => .error (.strategy other)

def generatedKeyTypeBy (overrides : Dictionary String) (word : Value) : Except TypeError String :=
  (strategyOf word).map (generatedKeyType overrides)

/-- The type of a field, for a strategy given as a value. The strategy is looked at only where it is
needed. -/
def fieldTypeBy (overrides : Dictionary String) (word : Value) (collection field kind : String) :
    Except TypeError String :=
  if kind = FieldKind.generatedKey then generatedKeyTypeBy overrides word
  else (declaredType overrides collection field kind).mapError .schema

def keyTypeBy (overrides : Dictionary String) (word : Value) (collection : Collection) :
    Except TypeError String :=
  match keyField collection with
  | .error e => .error (.schema e)
  | .ok field =>
    match Dictionary.find? field collection.fields with
    | none => generatedKeyTypeBy overrides word
    | some declared => fieldTypeBy overrides word collection.name field declared.kind

end TypeMap

end StorageTypes
