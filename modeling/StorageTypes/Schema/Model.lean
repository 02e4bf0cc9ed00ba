import StorageTypes.Schema.Basic
import StorageTypes.Schema.Issue

namespace StorageTypes

open Json (Value)

namespace Field

/-- A field may give its kind as `type` or as `kind`; `type` is looked at first. -/
def checkKind (object : Value) : Checked String :=
  match object.member? "type", object.member? "kind" with
  | some value, _ => (Check.text value).within (.entry "type")
  | none, some value => (Check.text value).within (.entry "kind")
  | none, none => .error [⟨.missing, [.entry "type"]⟩]

def check : Value → Checked Field :=
  Check.model fun object =>
    Checked.apply (Checked.apply (.ok Field.mk) (checkKind object))
      (Check.optional "optional" false Check.flag object)

def toValueUnder (kindName : String) (field : Field) : Value :=
  .obj [(kindName, .str field.kind), ("optional", .bool field.optional)]

def toValue (field : Field) : Value :=
  field.toValueUnder "type"

end Field

namespace ChildOf

def tag : String := "child-of"

end ChildOf

namespace Connects

def tag : String := "connects"

end Connects

/-- The tag of a model, which may be left out but must not be another one. -/
def checkTag (tag : String) (object : Value) : Checked Unit :=
  match object.member? "kind" with
  | none => .ok ()
  | some (.str word) =>
    if word = tag then .ok () else .error [⟨.wrongTag, [.entry "kind"]⟩]
  | some _ => .error [⟨.wrongTag, [.entry "kind"]⟩]

namespace ChildOf

def check : Value → Checked ChildOf :=
  Check.model fun object =>
    let build := fun (_ : Unit) forwardAlias reverseAlias single source target fieldName =>
      ChildOf.mk forwardAlias reverseAlias single source target fieldName
    let checked := Checked.apply (.ok build) (checkTag tag object)
    let checked := checked.apply (Check.required "alias" Check.text object)
    let checked := checked.apply (Check.required "reverse_alias" Check.nonemptyText object)
    let checked := checked.apply (Check.optional "single" false Check.flag object)
    let checked := checked.apply (Check.required "source_collection" Check.text object)
    let checked := checked.apply (Check.required "target_collection" Check.text object)
    checked.apply (Check.optional "field_name" none (Check.nullable Check.text) object)

def toValue (link : ChildOf) : Value :=
  .obj [("kind", .str tag), ("alias", .str link.forwardAlias),
    ("reverse_alias", .str link.reverseAlias), ("single", .bool link.single),
    ("source_collection", .str link.source), ("target_collection", .str link.target),
    ("field_name", Json.ofText? link.fieldName)]

end ChildOf

namespace Connects

def check : Value → Checked Connects :=
  Check.model fun object =>
    let build := fun (_ : Unit) (ends aliases : String × String) source =>
      Connects.mk ends.1 ends.2 aliases.1 aliases.2 source
    let checked := Checked.apply (.ok build) (checkTag tag object)
    let checked := checked.apply (Check.required "connects" Check.pair object)
    let checked := checked.apply (Check.required "aliases" Check.pair object)
    checked.apply (Check.required "source_collection" Check.text object)

def toValue (junction : Connects) : Value :=
  .obj [("kind", .str tag), ("connects", .arr [.str junction.left, .str junction.right]),
    ("aliases", .arr [.str junction.leftAlias, .str junction.rightAlias]),
    ("source_collection", .str junction.source)]

end Connects

namespace Relationship

def tag : Relationship → String
  | .childOf _ => ChildOf.tag
  | .connects _ => Connects.tag

/-- A relationship from its model; the tag says which of the two it is. -/
def check : Value → Checked Relationship
  | .obj entries =>
    match Dictionary.find? "kind" entries with
    | none => .fail .tagAbsent
    | some (.str word) =>
      if word = ChildOf.tag then
        Checked.within (.entry ChildOf.tag)
          ((ChildOf.check (.obj entries)).map Relationship.childOf)
      else if word = Connects.tag then
        Checked.within (.entry Connects.tag)
          ((Connects.check (.obj entries)).map Relationship.connects)
      else .fail .tagUnknown
    | some _ => .fail .tagUnknown
  | _ => .fail .notTagged

def toValue : Relationship → Value
  | .childOf link => link.toValue
  | .connects junction => junction.toValue

end Relationship

namespace PrimaryKey

/-- A primary key: `null`, a text, or a list of texts. What is neither is reported for both forms. -/
def check : Value → Checked PrimaryKey
  | .null => .ok .absent
  | .str field => .ok (.single field)
  | value =>
    match Check.list Check.text value with
    | .ok fields => .ok (.composite fields)
    | .error issues =>
      Checked.apply ((Checked.fail .notText).within (.entry "str"))
        (Checked.within (.entry "list[str]") (.error issues : Checked PrimaryKey))

def toValue : PrimaryKey → Value
  | .absent => .null
  | .single field => .str field
  | .composite fields => .arr (fields.map .str)

end PrimaryKey

namespace Collection

def check : Value → Checked Collection :=
  Check.model fun object =>
    let checked := Checked.apply (.ok Collection.mk)
      (Check.required "name" Check.nonemptyText object)
    let checked := checked.apply (Check.optional "pk_index" .absent PrimaryKey.check object)
    let checked := checked.apply (Check.optional "fields" [] (Check.entries Field.check) object)
    let checked := checked.apply
      (Check.optional "relationships" [] (Check.list Relationship.check) object)
    let checked := checked.apply
      (Check.optional "reverse_relationships_by_alias" [] (Check.entries Relationship.check) object)
    let checked := checked.apply (Check.optional "version" none (Check.nullable Check.text) object)
    checked.apply (Check.optional "description" none (Check.nullable Check.text) object)

def toValueUnder (kindName : String) (collection : Collection) : Value :=
  .obj [("name", .str collection.name), ("pk_index", collection.key.toValue),
    ("fields", .obj (Dictionary.mapValues (·.toValueUnder kindName) collection.fields)),
    ("relationships", .arr (collection.relationships.map (·.toValue))),
    ("reverse_relationships_by_alias",
      .obj (Dictionary.mapValues (·.toValue) collection.reverse)),
    ("version", Json.ofText? collection.version),
    ("description", Json.ofText? collection.description)]

def toValue (collection : Collection) : Value :=
  collection.toValueUnder "type"

end Collection

end StorageTypes
