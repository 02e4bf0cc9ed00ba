import Mathlib.Data.List.Permutation
import StorageTypes.Proofs.Readings

namespace StorageTypes

open Json (Value)

variable {name : String} {definition : Value} {collection : Collection}

theorem names_of_reads {given : List (String × Value)} {fields : Dictionary Field}
    (h : List.Forall₂ Field.Reads given fields) :
    Dictionary.names fields = Dictionary.names given := by
  induction h with
  | nil => rfl
  | cons hfirst _ ih =>
    simp only [Dictionary.names] at ih
    simp only [Dictionary.names, List.map_cons, ih, hfirst.named]

theorem Collection.names_withKeyField (fields : Dictionary Field) :
    Dictionary.names (Collection.withKeyField fields)
      = if defaultKeyField ∈ Dictionary.names fields then Dictionary.names fields
        else defaultKeyField :: Dictionary.names fields := by
  simp only [Collection.withKeyField, Dictionary.holds, Dictionary.find?_isSome_iff]
  split <;> rfl

theorem Field.reads_toValue (entry : String × Field) :
    Field.Reads (entry.1, entry.2.toValue) entry := by
  constructor <;> rfl

/-- What a collection that is read has from its definition, and what it has in place of what is left
out. -/
structure Collection.Completes (collection : Collection) (name : String) (definition : Value) :
    Prop where
  keyed : collection.key ≠ .absent
  /-- Without a key the fields begin with the default one, unless it is among them. -/
  defaultKey : definition.entry "pkIndex" = .null → collection.key = .single "id"
    ∧ ∃ given, (definition.entry "fields").orElse (.obj []) = .obj given
      ∧ Dictionary.names collection.fields
        = if "id" ∈ Dictionary.names given then Dictionary.names given
          else "id" :: Dictionary.names given
  givenKey : definition.entry "pkIndex" ≠ .null →
    collection.key.toValue = definition.entry "pkIndex"
      ∧ ∃ given, (definition.entry "fields").orElse (.obj []) = .obj given
        ∧ Dictionary.names collection.fields = Dictionary.names given
  relationships : ∃ items, (definition.entry "relationships").orElse (.arr []) = .arr items
    ∧ List.Forall₂ (Relationship.Reads name) items collection.relationships
  sourced : ∀ relationship ∈ collection.relationships, relationship.source = name
  explicit : Collection.ofDefinition name collection.toDefinition = .ok collection

namespace Collection.Reads

variable (h : Collection.Reads name definition collection)

include h

theorem key_ne_absent : collection.key ≠ .absent := by
  obtain ⟨given, declared, -, -, hkeyed⟩ := h.keyed
  generalize collection.key = key at hkeyed ⊢
  generalize collection.fields = fields at hkeyed
  cases hkeyed with
  | default =>
    intro habsent
    cases habsent
  | given _ hkey => exact hkey

theorem toDefinition : Collection.Reads name collection.toDefinition collection := by
  constructor
  case isObject => exact ⟨_, rfl⟩
  case nonempty => exact h.nonempty
  case named => exact h.named
  case unshown => exact h.unshown
  case version =>
    change collection.version = versionOfDefinition (Json.ofText? collection.version)
    cases collection.version <;> rfl
  case description => rfl
  case keyed =>
    refine ⟨Dictionary.mapValues (·.toValue) collection.fields, collection.fields, ?_, ?_, ?_⟩
    · exact orElse_object _
    · rw [Dictionary.mapValues, List.forall₂_map_left_iff, List.forall₂_same]
      intro entry _
      exact Field.reads_toValue entry
    · exact .given rfl h.key_ne_absent
  case relationships =>
    obtain ⟨items, -, hitems⟩ := h.relationships
    refine ⟨collection.relationships.map (·.toDefinition), ?_, ?_⟩
    · exact orElse_list (collection.relationships.map (·.toDefinition))
    · rw [List.forall₂_map_left_iff, List.forall₂_same]
      intro relationship hmem
      obtain ⟨item, -, hitem⟩ := exists_of_forall₂ hitems.flip hmem
      exact hitem.toDefinition

theorem default_key (hnone : definition.entry "pkIndex" = .null) :
    collection.key = .single "id"
      ∧ ∃ given, (definition.entry "fields").orElse (.obj []) = .obj given
        ∧ Dictionary.names collection.fields
          = if "id" ∈ Dictionary.names given then Dictionary.names given
            else "id" :: Dictionary.names given := by
  obtain ⟨given, declared, hgiven, hfields, hkeyed⟩ := h.keyed
  generalize hkey : collection.key = key at hkeyed
  generalize hdeclared : collection.fields = fields at hkeyed
  cases hkeyed with
  | default =>
    refine ⟨rfl, given, hgiven, ?_⟩
    rw [Collection.names_withKeyField, names_of_reads hfields]
    rfl
  | given hvalue hpresent =>
    rw [hnone] at hvalue
    cases key with
    | absent => exact absurd rfl hpresent
    | _ => cases hvalue

theorem given_key (hsome : definition.entry "pkIndex" ≠ .null) :
    collection.key.toValue = definition.entry "pkIndex"
      ∧ ∃ given, (definition.entry "fields").orElse (.obj []) = .obj given
        ∧ Dictionary.names collection.fields = Dictionary.names given := by
  obtain ⟨given, declared, hgiven, hfields, hkeyed⟩ := h.keyed
  generalize hkey : collection.key = key at hkeyed
  generalize hdeclared : collection.fields = fields at hkeyed
  cases hkeyed with
  | default hvalue => exact absurd hvalue hsome
  | given hvalue => exact ⟨hvalue.symm, given, hgiven, names_of_reads hfields⟩

end Collection.Reads

/-- A collection that is read completes its definition, and making everything explicit changes
nothing. -/
theorem Collection.completes_definition
    (h : Collection.ofDefinition name definition = .ok collection) :
    collection.Completes name definition := by
  have hreads := Collection.reads_iff.1 h
  constructor
  case keyed => exact hreads.key_ne_absent
  case defaultKey => exact hreads.default_key
  case givenKey => exact hreads.given_key
  case relationships => exact hreads.relationships
  case sourced =>
    exact Collection.source_of_relationshipsOfDefinition
      (Collection.relationshipsOfDefinition_iff.2 hreads.relationships)
  case explicit => exact Collection.reads_iff.2 hreads.toDefinition

/-- A definition that leaves out its key, and has empty texts and lists in place of defaults. -/
def threadDefinition : Value :=
  .obj [("version", .bool false), ("description", .str ""), ("pkIndex", .null),
    ("fields", .obj [("title", .obj [("type", .str "string"), ("optional", .int 1)])]),
    ("relationships", .arr [.obj [("childOf", .str ""), ("alias", .arr [])],
      .obj [("singleChildOf", .str "user"), ("childOf", .int 1), ("reverseAlias", .str ""),
        ("fieldName", .str "owner_id")],
      .obj [("connects", .arr [.str "tag", .str "note"]), ("aliases", .str "tn!")]])]

def threadCollection : Collection where
  name := "thread"
  key := .single "id"
  fields := [("id", ⟨"auto-pk", false⟩), ("title", ⟨"string", true⟩)]
  relationships := [.childOf ⟨"", "threads", false, "thread", "", some ""⟩,
    .childOf ⟨"user", "thread", true, "thread", "user", some "owner_id"⟩,
    .connects ⟨"tag", "note", "t", "n", "thread"⟩]
  version := some "False"
  description := some ""

theorem threadCollection_completes :
    Collection.ofDefinition "thread" threadDefinition = .ok threadCollection
      ∧ threadCollection.Completes "thread" threadDefinition := by
  have hread : Collection.ofDefinition "thread" threadDefinition = .ok threadCollection := by cbv
  exact ⟨hread, Collection.completes_definition hread⟩

end StorageTypes
