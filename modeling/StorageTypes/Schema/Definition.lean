import StorageTypes.Schema.Model
import StorageTypes.Schema.Failure
import StorageTypes.Text.Plural

namespace StorageTypes

open Json (Value)

def defaultKeyField : String := "id"

namespace Field

/-- A field from its definition, an object with a text under `type`. -/
def ofDefinition (collection name : String) (definition : Value) :
    Except DefinitionError Field :=
  match definition.member? "type" with
  | some (.str kind) =>
    .ok ⟨kind, ((definition.member? "optional").map (·.isGiven)).getD false⟩
  | _ =>
    .error (.schema (.badDefinition collection
      ("field '" ++ name ++ "' needs a string 'type', got " ++ definition.literal)))

end Field

def itemAt (value : Value) (index : Nat) : Except Misfit Value :=
  match value with
  | .arr items =>
    match items[index]? with
    | some item => .ok item
    | none => .error .listTooShort
  | .str content =>
    match content.toList[index]? with
    | some c => .ok (.str (String.singleton c))
    | none => .error .textTooShort
  | .obj _ => .error (.noItem index)
  | other => .error (.notIndexable other.typeName)

namespace ChildOf

/-- The model of a relationship to one target with its defaults filled in: the alias is the target's
name, the reverse alias the name of the source, in the plural unless it is `single`, and the field
name is the alias. -/
def modelOfDefinition (collection : String) (single : Bool) (target definition : Value) : Value :=
  let entry := fun name => (definition.member? name).getD .null
  let forwardAlias := (entry "alias").orElse target
  let reverseDefault := if single then collection else Text.pluralize collection
  .obj [("kind", .str tag), ("alias", forwardAlias),
    ("reverse_alias", (entry "reverseAlias").orElse (.str reverseDefault)),
    ("single", .bool single), ("source_collection", .str collection),
    ("target_collection", target), ("field_name", (entry "fieldName").orElse forwardAlias)]

end ChildOf

namespace Relationship

/-- A `connects` entry: two collections, and their aliases on the junction, which are their names
unless others are given. -/
def connectsOfDefinition (collection : String) (ends definition : Value) :
    Except DefinitionError Relationship :=
  match ends with
  | .arr [left, right] =>
    let aliases := ((definition.member? "aliases").getD .null).orElse ends
    match itemAt aliases 0, itemAt aliases 1 with
    | .error misfit, _ => .error (.misfit misfit)
    | .ok _, .error misfit => .error (.misfit misfit)
    | .ok leftAlias, .ok rightAlias =>
      match Connects.check (.obj [("connects", .arr [left, right]),
          ("aliases", .arr [leftAlias, rightAlias]), ("source_collection", .str collection)]) with
      | .ok junction => .ok (.connects junction)
      | .error issues => .error (.relationship issues)
  | _ =>
    .error (.schema (.badDefinition collection
      ("'connects' must name exactly two collections, got " ++ ends.literal)))

/-- A relationship from its definition: an object with `singleChildOf`, `childOf` or `connects`, the
first of these that is there. -/
def ofDefinition (collection : String) (definition : Value) :
    Except DefinitionError Relationship :=
  let childOf := fun single target =>
    match ChildOf.check (ChildOf.modelOfDefinition collection single target definition) with
    | .ok link => .ok (.childOf link)
    | .error issues => .error (.relationship issues)
  match definition.member? "singleChildOf", definition.member? "childOf",
      definition.member? "connects" with
  | some target, _, _ => childOf true target
  | none, some target, _ => childOf false target
  | none, none, some ends => connectsOfDefinition collection ends definition
  | none, none, none => .error (.schema (.unsupportedRelationship collection false))

def toDefinition : Relationship → Value
  | .childOf link =>
    .obj [(if link.single then "singleChildOf" else "childOf", .str link.target),
      ("alias", .str link.forwardAlias), ("reverseAlias", .str link.reverseAlias),
      ("fieldName", Json.ofText? link.fieldName)]
  | .connects junction =>
    .obj [("connects", .arr [.str junction.left, .str junction.right]),
      ("aliases", .arr [.str junction.leftAlias, .str junction.rightAlias])]

end Relationship

def eachOf {α β ε : Type} (f : α → Except ε β) : List α → Except ε (List β)
  | [] => .ok []
  | a :: rest =>
    match f a with
    | .error e => .error e
    | .ok b => (eachOf f rest).map (b :: ·)

/-- What comes out of a value when it is gone through item by item: the items of a list, the names of
an object, the characters of a text. -/
def itemsOf : Value → Except Misfit (List Value)
  | .arr items => .ok items
  | .obj entries => .ok (entries.map fun entry => .str entry.1)
  | .str content => .ok (content.toList.map fun c => .str (String.singleton c))
  | other => .error (.notIterable other.typeName)

namespace Collection

def fieldsOfDefinition (name : String) (definition : Value) :
    Except DefinitionError (Dictionary Field) :=
  match ((definition.member? "fields").getD .null).orElse (.obj []) with
  | .obj entries =>
    eachOf (fun entry => (Field.ofDefinition name entry.1 entry.2).map (entry.1, ·)) entries
  | _ => .error (.schema (.badDefinition name "'fields' must be an object"))

def relationshipsOfDefinition (name : String) (definition : Value) :
    Except DefinitionError (List Relationship) :=
  match itemsOf (((definition.member? "relationships").getD .null).orElse (.arr [])) with
  | .error misfit => .error (.misfit misfit)
  | .ok items => eachOf (Relationship.ofDefinition name) items

/-- The fields with a generated key in front, when the key is the default one and no field has its
name. -/
def withKeyField (fields : Dictionary Field) : Dictionary Field :=
  if Dictionary.holds defaultKeyField fields then fields
  else (defaultKeyField, ⟨FieldKind.generatedKey, false⟩) :: fields

def versionOfDefinition : Value → Option String
  | .null => none
  | value => some value.text

def ofDefinition (name : String) (definition : Value) : Except DefinitionError Collection :=
  match definition with
  | .obj entries =>
    let entry := fun key => (Dictionary.find? key entries).getD .null
    match fieldsOfDefinition name definition with
    | .error e => .error e
    | .ok declared =>
      let keyValue := entry "pkIndex"
      let (key, fields) :=
        match keyValue with
        | .null => (Value.str defaultKeyField, withKeyField declared)
        | given => (given, declared)
      match relationshipsOfDefinition name definition with
      | .error e => .error e
      | .ok relationships =>
        let build := fun checkedName checkedKey description =>
          Collection.mk checkedName checkedKey fields relationships []
            (versionOfDefinition (entry "version")) description
        let checked := Checked.apply (.ok build)
          ((Check.nonemptyText (.str name)).within (.entry "name"))
        let checked := checked.apply ((PrimaryKey.check key).within (.entry "pk_index"))
        let checked := checked.apply
          ((Check.nullable Check.text (entry "description")).within (.entry "description"))
        checked.mapError (.model name)
  | other =>
    .error (.schema (.badDefinition name ("expected an object, got " ++ other.typeName)))

def toDefinition (collection : Collection) : Value :=
  .obj [("version", Json.ofText? collection.version),
    ("description", Json.ofText? collection.description), ("pkIndex", collection.key.toValue),
    ("fields", .obj (Dictionary.mapValues (·.toValue) collection.fields)),
    ("relationships", .arr (collection.relationships.map (·.toDefinition)))]

end Collection

end StorageTypes
