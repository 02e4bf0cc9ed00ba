import StorageTypes.Cli.Output
import StorageTypes.Proofs.Checks
import StorageTypes.Proofs.Definitions

namespace StorageTypes

open Json (Value)

variable {value : Value} {kindName : String}

def Relationship.Valid : Relationship → Prop
  | .childOf link => link.reverseAlias ≠ ""
  | .connects _ => True

/-- Collections that a model can describe. -/
structure Collection.Valid (collection : Collection) : Prop where
  named : collection.name ≠ ""
  relationships : ∀ relationship ∈ collection.relationships, relationship.Valid
  reverse : ∀ shown ∈ collection.reverse, shown.2.Valid

theorem Field.check_toValueUnder (field : Field) (hkind : kindName = "type" ∨ kindName = "kind") :
    Field.check (field.toValueUnder kindName) = .ok field := by
  rcases hkind with rfl | rfl <;> rfl

theorem ChildOf.check_toValue {link : ChildOf} (h : link.reverseAlias ≠ "") :
    ChildOf.check link.toValue = .ok link := by
  rw [toValue, check_eq_ok_iff]
  refine ⟨rfl, rfl, ?_, rfl, rfl, rfl, ?_⟩
  · rw [Check.required_eq_ok_iff]
    exact ⟨_, rfl, Check.nonemptyText_eq_ok_iff.2 ⟨rfl, h⟩⟩
  · rw [Check.optional_eq_ok_iff]
    exact .inr ⟨_, rfl, Check.nullable_text_eq_ok_iff.2 rfl⟩

theorem Connects.check_toValue (junction : Connects) :
    Connects.check junction.toValue = .ok junction := by
  rw [toValue, check_eq_ok_iff]
  exact ⟨rfl, rfl, rfl, rfl⟩

theorem Relationship.check_toValue {relationship : Relationship} (h : relationship.Valid) :
    Relationship.check relationship.toValue = .ok relationship := by
  cases relationship with
  | childOf link =>
    have hlink : ChildOf.check link.toValue = .ok link := ChildOf.check_toValue h
    change Checked.within (.entry ChildOf.tag)
      ((ChildOf.check link.toValue).map Relationship.childOf) = _
    rw [hlink]
    rfl
  | connects junction =>
    change Checked.within (.entry Connects.tag)
      ((Connects.check junction.toValue).map Relationship.connects) = _
    rw [junction.check_toValue]
    rfl

theorem Relationship.valid_of_check {relationship : Relationship}
    (h : Relationship.check value = .ok relationship) : relationship.Valid := by
  cases value with
  | obj entries =>
    simp only [Relationship.check] at h
    split at h
    · cases h
    · split at h
      · rw [Checked.within_eq_ok_iff, map_eq_ok_iff] at h
        obtain ⟨link, hlink, rfl⟩ := h
        obtain ⟨_, _, hreverse⟩ :=
          Check.required_eq_ok_iff.1 (ChildOf.check_eq_ok_iff.1 hlink).2.2.1
        exact (Check.nonemptyText_eq_ok_iff.1 hreverse).2
      · split at h
        · rw [Checked.within_eq_ok_iff, map_eq_ok_iff] at h
          obtain ⟨junction, -, rfl⟩ := h
          trivial
        · cases h
    · cases h
  | _ => cases h

theorem Collection.check_eq_ok_iff {entries : List (String × Value)} {collection : Collection} :
    Collection.check (.obj entries) = .ok collection
      ↔ Check.required "name" Check.nonemptyText (.obj entries) = .ok collection.name
        ∧ Check.optional "pk_index" .absent PrimaryKey.check (.obj entries) = .ok collection.key
        ∧ Check.optional "fields" [] (Check.entries Field.check) (.obj entries)
            = .ok collection.fields
        ∧ Check.optional "relationships" [] (Check.list Relationship.check) (.obj entries)
            = .ok collection.relationships
        ∧ Check.optional "reverse_relationships_by_alias" [] (Check.entries Relationship.check)
            (.obj entries) = .ok collection.reverse
        ∧ Check.optional "version" none (Check.nullable Check.text) (.obj entries)
            = .ok collection.version
        ∧ Check.optional "description" none (Check.nullable Check.text) (.obj entries)
            = .ok collection.description := by
  simp only [Collection.check, Check.model, Checked.apply_eq_ok_iff, Except.ok.injEq]
  constructor
  · intro h
    obtain ⟨_, _, ⟨_, _, ⟨_, _, ⟨_, _, ⟨_, _, ⟨_, _, ⟨_, _, rfl, hname, rfl⟩, hkey, rfl⟩, hfields, rfl⟩,
      hrelationships, rfl⟩, hreverse, rfl⟩, hversion, rfl⟩, hdescription, rfl⟩ := h
    exact ⟨hname, hkey, hfields, hrelationships, hreverse, hversion, hdescription⟩
  · intro h
    obtain ⟨hname, hkey, hfields, hrelationships, hreverse, hversion, hdescription⟩ := h
    exact ⟨_, _, ⟨_, _, ⟨_, _, ⟨_, _, ⟨_, _, ⟨_, _, ⟨_, _, rfl, hname, rfl⟩, hkey, rfl⟩, hfields, rfl⟩,
      hrelationships, rfl⟩, hreverse, rfl⟩, hversion, rfl⟩, hdescription, rfl⟩

namespace Collection

variable {collection : Collection}

theorem check_toValueUnder (h : collection.Valid) (hkind : kindName = "type" ∨ kindName = "kind") :
    Collection.check (collection.toValueUnder kindName) = .ok collection := by
  have hfields : Check.entries Field.check
      (.obj (Dictionary.mapValues (·.toValueUnder kindName) collection.fields))
        = .ok collection.fields := by
    apply Check.entries_mapValues_of_mem
    intro entry _
    exact entry.2.check_toValueUnder hkind
  have hrelationships : Check.list Relationship.check
      (.arr (collection.relationships.map (·.toValue))) = .ok collection.relationships := by
    apply Check.list_map_of_mem
    intro relationship hmem
    exact Relationship.check_toValue (h.relationships relationship hmem)
  have hreverse : Check.entries Relationship.check
      (.obj (Dictionary.mapValues (·.toValue) collection.reverse)) = .ok collection.reverse := by
    apply Check.entries_mapValues_of_mem
    intro shown hmem
    exact Relationship.check_toValue (h.reverse shown hmem)
  have htext (text : Option String) :
      Check.nullable Check.text (Json.ofText? text) = .ok text :=
    Check.nullable_text_eq_ok_iff.2 rfl
  rw [toValueUnder, check_eq_ok_iff]
  simp only [Check.required_eq_ok_iff, Check.optional_eq_ok_iff]
  exact ⟨⟨_, rfl, Check.nonemptyText_eq_ok_iff.2 ⟨rfl, h.named⟩⟩,
    .inr ⟨_, rfl, collection.key.check_toValue⟩, .inr ⟨_, rfl, hfields⟩,
    .inr ⟨_, rfl, hrelationships⟩, .inr ⟨_, rfl, hreverse⟩, .inr ⟨_, rfl, htext _⟩,
    .inr ⟨_, rfl, htext _⟩⟩

theorem valid_of_check (h : Collection.check value = .ok collection) : collection.Valid := by
  cases value with
  | obj entries =>
    obtain ⟨hname, -, -, hrelationships, hreverse, -, -⟩ := check_eq_ok_iff.1 h
    rw [Check.required_eq_ok_iff] at hname
    rw [Check.optional_eq_ok_iff] at hrelationships hreverse
    constructor
    case named =>
      obtain ⟨_, -, hname⟩ := hname
      exact (Check.nonemptyText_eq_ok_iff.1 hname).2
    case relationships =>
      intro relationship hmem
      rcases hrelationships with ⟨-, hnone⟩ | ⟨given, -, hlist⟩
      · rw [← hnone] at hmem
        cases hmem
      · cases given with
        | arr items =>
          obtain ⟨item, -, hitem⟩ :=
            exists_of_forall₂ (Check.list_eq_ok_iff.1 hlist).flip hmem
          exact Relationship.valid_of_check hitem
        | _ => cases hlist
    case reverse =>
      intro shown hmem
      rcases hreverse with ⟨-, hnone⟩ | ⟨given, -, hentries⟩
      · rw [← hnone] at hmem
        cases hmem
      · cases given with
        | obj others =>
          obtain ⟨entry, -, -, hentry⟩ :=
            exists_of_forall₂ (Check.entries_eq_ok_iff.1 hentries).flip hmem
          exact Relationship.valid_of_check hentry
        | _ => cases hentries
  | _ => cases h

/-- A collection that can be read at all is read back from its own model, as it is printed and with
the kinds of its fields under the other name. -/
theorem reads_back [Terminal.Markup] (collection : Collection) :
    (collection.Valid ↔ ∃ value, Collection.check value = .ok collection)
      ∧ (collection.Valid ↔ Collection.check collection.toValue = .ok collection)
      ∧ (collection.Valid ↔ Collection.check (collection.toValueUnder "kind") = .ok collection)
      ∧ Cli.Style.json.collection collection
        = { output := Cli.jsonOutput collection.toValue } := by
  refine ⟨⟨?_, ?_⟩, ⟨?_, valid_of_check⟩, ⟨?_, valid_of_check⟩, rfl⟩
  · intro h
    exact ⟨_, check_toValueUnder h (.inl rfl)⟩
  · intro h
    obtain ⟨_, hcheck⟩ := h
    exact valid_of_check hcheck
  · intro h
    exact check_toValueUnder h (.inl rfl)
  · intro h
    exact check_toValueUnder h (.inr rfl)

end Collection

end StorageTypes
