import StorageTypes.Proofs.Readings
import StorageTypes.Proofs.Registration

namespace StorageTypes

open Json (Value)

variable {α β : Type} {name collection : String} {definition value : Value}

/-- Failures that name the collection whose definition is at fault. -/
inductive DefinitionError.Names (collection : String) : DefinitionError → Prop where
  | fault (reason : String) : Names collection (.schema (.badDefinition collection reason))
  | unsupported : Names collection (.schema (.unsupportedRelationship collection false))
  | model (issues : List Issue) : Names collection (.model collection issues)

/-- Failures of a schema or of the model of a collection. -/
inductive DefinitionError.Reported : DefinitionError → Prop where
  | schema (error : SchemaError) : Reported (.schema error)
  | model (collection : String) (issues : List Issue) : Reported (.model collection issues)

/-- Failures that say nothing of a collection. -/
inductive DefinitionError.Bare : DefinitionError → Prop where
  | relationship (issues : List Issue) : Bare (.relationship issues)
  | misfit (misfit : Misfit) : Bare (.misfit misfit)

theorem DefinitionError.Names.reported {error : DefinitionError} (h : error.Names collection) :
    error.Reported := by
  cases h with
  | fault reason => exact .schema _
  | unsupported => exact .schema _
  | model issues => exact .model _ issues

theorem DefinitionError.Bare.not_reported {error : DefinitionError} (h : error.Bare) :
    ¬error.Reported := by
  intro hreported
  cases h <;> cases hreported

/-- A computation that fails barely under a condition, and otherwise in no other than the allowed
ways. -/
structure BareWhen (slips : Prop) (allowed : DefinitionError → Prop) (x : Except DefinitionError α) :
    Prop where
  bare : slips → ∃ error, x = .error error ∧ error.Bare
  allowed : ¬slips → FailsOnly allowed x

theorem BareWhen.failsOnly_iff {slips : Prop} {allowed : DefinitionError → Prop}
    {x : Except DefinitionError α} (h : BareWhen slips allowed x)
    (hallowed : ∀ error, allowed error → error.Reported) : FailsOnly allowed x ↔ ¬slips := by
  constructor
  · intro hfails hslips
    obtain ⟨error, herror, hbare⟩ := h.bare hslips
    exact hbare.not_reported (hallowed error (hfails error herror))
  · exact h.allowed

/-- Definitions that are taken for those of a relationship. -/
inductive Relationship.Recognised (definition : Value) : Prop where
  | single {target : Value} (h : definition.member? "singleChildOf" = some target)
  | several {target : Value} (h : definition.member? "childOf" = some target)
  | between {left right : Value} (h : definition.member? "connects" = some (.arr [left, right]))

def Relationship.Slips (collection : String) (definition : Value) : Prop :=
  Relationship.Recognised definition
    ∧ ¬∃ relationship, Relationship.Reads collection definition relationship

theorem Relationship.bare_of_pair {left right : Value} {error : DefinitionError}
    (h : Relationship.connectsOfDefinition collection (.arr [left, right]) definition
      = .error error) : error.Bare := by
  simp only [Relationship.connectsOfDefinition] at h
  split at h
  · cases h
    exact .misfit _
  · cases h
    exact .misfit _
  · split at h
    · cases h
    · cases h
      exact .relationship _

theorem Relationship.names_of_no_pair {ends : Value} {error : DefinitionError}
    (hends : ∀ left right, ends ≠ .arr [left, right])
    (h : Relationship.connectsOfDefinition collection ends definition = .error error) :
    error.Names collection := by
  simp only [Relationship.connectsOfDefinition] at h
  cases h
  exact .fault _

theorem Relationship.bare_of_recognised {error : DefinitionError}
    (h : Relationship.Recognised definition)
    (herror : Relationship.ofDefinition collection definition = .error error) : error.Bare := by
  simp only [Relationship.ofDefinition] at herror
  split at herror
  · split at herror
    · cases herror
    · cases herror
      exact .relationship _
  · split at herror
    · cases herror
    · cases herror
      exact .relationship _
  · next ends hsingle hseveral hends =>
    cases h with
    | single h => simp [hsingle] at h
    | several h => simp [hseveral] at h
    | between h =>
      rw [hends, Option.some.injEq] at h
      rw [h] at herror
      exact Relationship.bare_of_pair herror
  · next hsingle hseveral hends =>
    cases h with
    | single h => simp [hsingle] at h
    | several h => simp [hseveral] at h
    | between h => simp [hends] at h

theorem Relationship.names_of_unrecognised {error : DefinitionError}
    (h : ¬Relationship.Recognised definition)
    (herror : Relationship.ofDefinition collection definition = .error error) :
    error.Names collection := by
  simp only [Relationship.ofDefinition] at herror
  split at herror
  · next target htarget => exact absurd (.single htarget) h
  · next target _ htarget => exact absurd (.several htarget) h
  · next ends _ _ hends =>
    apply Relationship.names_of_no_pair ?_ herror
    intro left right hpair
    exact h (.between (hpair ▸ hends))
  · cases herror
    exact .unsupported

theorem Relationship.ofDefinition_bareWhen (collection : String) (definition : Value) :
    BareWhen (Relationship.Slips collection definition) (DefinitionError.Names collection)
      (Relationship.ofDefinition collection definition) := by
  constructor
  case bare =>
    intro h
    obtain ⟨hrecognised, hnone⟩ := h
    simp only [← Relationship.reads_iff] at hnone
    obtain ⟨error, herror⟩ := exists_error_iff.2 hnone
    exact ⟨error, herror, Relationship.bare_of_recognised hrecognised herror⟩
  case allowed =>
    intro h error herror
    apply Relationship.names_of_unrecognised ?_ herror
    intro hrecognised
    apply h
    refine ⟨hrecognised, ?_⟩
    simp only [← Relationship.reads_iff, ← exists_error_iff]
    exact ⟨error, herror⟩

/-- Values in place of a list of relationships that are refused without naming the collection: those
that cannot be gone through, and lists in which the first entry without a relationship slips. -/
inductive Collection.ListSlips (name : String) (value : Value) : Prop where
  | noList (h : ∀ items, itemsOf value ≠ .ok items)
  | entry {before after : List Value} {item : Value} (hvalue : value = .arr (before ++ item :: after))
      (hbefore : ∀ earlier ∈ before, ∃ relationship, Relationship.Reads name earlier relationship)
      (hitem : Relationship.Slips name item)

theorem itemsOf_eq_ok {items : List Value} (h : itemsOf value = .ok items) :
    value = .arr items ∨ ∀ item ∈ items, ∃ text, item = .str text := by
  cases value with
  | arr given =>
    cases h
    exact .inl rfl
  | obj entries =>
    cases h
    right
    intro item hitem
    obtain ⟨entry, -, rfl⟩ := List.mem_map.1 hitem
    exact ⟨entry.1, rfl⟩
  | str content =>
    cases h
    right
    intro item hitem
    obtain ⟨c, -, rfl⟩ := List.mem_map.1 hitem
    exact ⟨String.singleton c, rfl⟩
  | _ => cases h

theorem Relationship.not_recognised_text (text : String) :
    ¬Relationship.Recognised (.str text) := by
  intro h
  cases h with
  | single h | several h | between h => cases h

theorem Collection.relationshipsOfDefinition_bareWhen (name : String) (definition : Value) :
    BareWhen (Collection.ListSlips name ((definition.entry "relationships").orElse (.arr [])))
      (DefinitionError.Names name) (Collection.relationshipsOfDefinition name definition) := by
  have hentry : ((definition.member? "relationships").getD .null).orElse (.arr [])
      = (definition.entry "relationships").orElse (.arr []) := rfl
  rw [Collection.relationshipsOfDefinition, hentry]
  generalize (definition.entry "relationships").orElse (.arr []) = given
  constructor
  case bare =>
    intro h
    cases h with
    | noList hnone =>
      cases hitems : itemsOf given with
      | error misfit => exact ⟨_, rfl, .misfit misfit⟩
      | ok items => exact absurd hitems (hnone items)
    | @entry before after item hgiven hbefore hitem =>
      obtain ⟨error, herror, hbare⟩ := (Relationship.ofDefinition_bareWhen name item).bare hitem
      simp only [← Relationship.reads_iff] at hbefore
      rw [hgiven]
      exact ⟨error, eachOf_eq_error_iff.2 ⟨before, item, after, rfl, hbefore, herror⟩, hbare⟩
  case allowed =>
    intro h error herror
    cases hitems : itemsOf given with
    | error misfit =>
      refine absurd (.noList ?_) h
      intro items hok
      rw [hitems] at hok
      cases hok
    | ok items =>
      simp only [hitems] at herror
      obtain ⟨before, item, after, rfl, hbefore, hitem⟩ := eachOf_eq_error_iff.1 herror
      simp only [Relationship.reads_iff] at hbefore
      apply (Relationship.ofDefinition_bareWhen name item).allowed ?_ error hitem
      intro hslips
      rcases itemsOf_eq_ok hitems with hlist | htexts
      · exact h (.entry hlist hbefore hslips)
      · obtain ⟨text, htext⟩ := htexts item (by simp)
        rw [htext] at hslips
        exact Relationship.not_recognised_text text hslips.1

/-- Definitions of a collection that are refused without naming it: their fields can be read, but what
is in place of their relationships slips. -/
structure Collection.Slips (name : String) (definition : Value) : Prop where
  isObject : ∃ entries, definition = .obj entries
  fields : ∃ given, (definition.entry "fields").orElse (.obj []) = .obj given
    ∧ ∀ field ∈ given, ∃ kind, field.2.member? "type" = some (.str kind)
  relationships : Collection.ListSlips name ((definition.entry "relationships").orElse (.arr []))

theorem Field.exists_reads_iff {given : String × Value} :
    (∃ field, Field.Reads given field) ↔ ∃ kind, given.2.member? "type" = some (.str kind) := by
  constructor
  · intro h
    obtain ⟨field, hfield⟩ := h
    exact ⟨field.2.kind, hfield.kind⟩
  · intro h
    obtain ⟨kind, hkind⟩ := h
    exact ⟨(given.1, ⟨kind, (given.2.entry "optional").isGiven⟩), rfl, hkind, rfl⟩

theorem Collection.exists_fieldsOfDefinition_iff :
    (∃ fields, Collection.fieldsOfDefinition name definition = .ok fields)
      ↔ ∃ given, (definition.entry "fields").orElse (.obj []) = .obj given
        ∧ ∀ field ∈ given, ∃ kind, field.2.member? "type" = some (.str kind) := by
  have hread (given : List (String × Value)) :
      (∃ fields, List.Forall₂ Field.Reads given fields)
        ↔ ∀ field ∈ given, ∃ kind, field.2.member? "type" = some (.str kind) := by
    have hall : (∃ fields, eachOf (fun entry : String × Value =>
          (Field.ofDefinition name entry.1 entry.2).map (entry.1, ·)) given = .ok fields)
        ↔ ∀ entry ∈ given, ∃ field,
          (Field.ofDefinition name entry.1 entry.2).map (entry.1, ·) = .ok field :=
      exists_eachOf_iff
    simpa only [eachOf_eq_ok_iff, Field.reads_iff, Field.exists_reads_iff] using hall
  simp only [Collection.fieldsOfDefinition_iff, ← hread]
  constructor
  · intro h
    obtain ⟨fields, given, hgiven, hfields⟩ := h
    exact ⟨given, hgiven, fields, hfields⟩
  · intro h
    obtain ⟨given, hgiven, fields, hfields⟩ := h
    exact ⟨fields, given, hgiven, hfields⟩

theorem Collection.fieldsOfDefinition_failsOnly (name : String) (definition : Value) :
    FailsOnly (DefinitionError.Names name) (Collection.fieldsOfDefinition name definition) := by
  intro error h
  simp only [Collection.fieldsOfDefinition] at h
  split at h
  · obtain ⟨_, entry, _, _, _, hentry⟩ := eachOf_eq_error_iff.1 h
    rw [map_eq_error_iff] at hentry
    simp only [Field.ofDefinition] at hentry
    split at hentry
    · cases hentry
    · cases hentry
      exact .fault _
  · cases h
    exact .fault _

theorem Collection.ofDefinition_bareWhen (name : String) (definition : Value) :
    BareWhen (Collection.Slips name definition) (DefinitionError.Names name)
      (Collection.ofDefinition name definition) := by
  constructor
  case bare =>
    intro h
    obtain ⟨entries, rfl⟩ := h.isObject
    have hread : ∃ fields, Collection.fieldsOfDefinition name (.obj entries) = .ok fields :=
      Collection.exists_fieldsOfDefinition_iff.2 h.fields
    obtain ⟨fields, hfields⟩ := hread
    obtain ⟨error, herror, hbare⟩ :=
      (Collection.relationshipsOfDefinition_bareWhen name (.obj entries)).bare h.relationships
    refine ⟨error, ?_, hbare⟩
    simp only [Collection.ofDefinition, hfields, herror]
  case allowed =>
    intro h error herror
    simp only [Collection.ofDefinition] at herror
    split at herror
    · next entries =>
      split at herror
      · next hfields =>
        cases herror
        exact Collection.fieldsOfDefinition_failsOnly name _ error hfields
      next fields hfields =>
      split at herror
      · next hrelationships =>
        cases herror
        apply (Collection.relationshipsOfDefinition_bareWhen name _).allowed ?_ error hrelationships
        intro hslips
        exact h ⟨⟨entries, rfl⟩, Collection.exists_fieldsOfDefinition_iff.1 ⟨fields, hfields⟩, hslips⟩
      · obtain ⟨issues, -, rfl⟩ := mapError_eq_error_iff.1 herror
        exact .model issues
    · cases herror
      exact .fault _

/-- Schemas in which the first definition that describes no collection slips. -/
def Registry.Slips (definitions : List (String × Value)) : Prop :=
  ∃ before name definition after, definitions = before ++ (name, definition) :: after
    ∧ (∀ entry ∈ before, ∃ collection, Collection.Reads entry.1 entry.2 collection)
    ∧ Collection.Slips name definition

theorem Registry.ofDefinitions_bareWhen (definitions : List (String × Value)) :
    BareWhen (Registry.Slips definitions) DefinitionError.Reported
      (Registry.ofDefinitions (.obj definitions)).result := by
  constructor
  case bare =>
    intro h
    obtain ⟨before, name, definition, after, rfl, hbefore, hslips⟩ := h
    obtain ⟨error, herror, hbare⟩ := (Collection.ofDefinition_bareWhen name definition).bare hslips
    simp only [← Collection.reads_iff] at hbefore
    refine ⟨error, ?_, hbare⟩
    simp only [Registry.ofDefinitions, Registry.registerAll_stops hbefore herror after]
  case allowed =>
    intro h error herror
    simp only [Registry.ofDefinitions] at herror
    split at herror
    · next registered cause hregistered =>
      cases herror
      obtain ⟨before, name, definition, after, rfl, hbefore, hrefused⟩ :=
        Registry.registerAll_eq_error (congrArg Prod.snd hregistered)
      simp only [AllAccepted, Collection.reads_iff] at hbefore
      refine DefinitionError.Names.reported
        ((Collection.ofDefinition_bareWhen name definition).allowed ?_ error hrefused)
      intro hslips
      exact h ⟨before, name, definition, after, rfl, hbefore, hslips⟩
    · split at herror
      · cases herror
        exact .schema _
      · cases herror

/-- A definition that is refused is refused by the name of its collection, and a schema for a fault of
its own, exactly if no relationship slips before anything else is found. -/
theorem refusals_named (name : String) (definition : Value) (definitions : List (String × Value)) :
    (FailsOnly (DefinitionError.Names name) (Collection.ofDefinition name definition)
        ↔ ¬Collection.Slips name definition)
      ∧ (FailsOnly DefinitionError.Reported (Registry.ofDefinitions (.obj definitions)).result
        ↔ ¬Registry.Slips definitions) := by
  constructor
  · apply (Collection.ofDefinition_bareWhen name definition).failsOnly_iff
    intro error hnames
    exact hnames.reported
  · apply (Registry.ofDefinitions_bareWhen definitions).failsOnly_iff
    intro error hreported
    exact hreported

def numberedDefinition : Value :=
  .obj [("relationships", .arr [.obj [("childOf", .int 1)]])]

theorem numberedDefinition_bare :
    Collection.ofDefinition "note" numberedDefinition
        = .error (.relationship [⟨.notText, [.entry "alias"]⟩,
          ⟨.notText, [.entry "target_collection"]⟩, ⟨.notText, [.entry "field_name"]⟩])
      ∧ ¬FailsOnly (DefinitionError.Names "note")
        (Collection.ofDefinition "note" numberedDefinition)
      ∧ ¬FailsOnly DefinitionError.Reported
        (Registry.ofDefinitions (.obj [("note", numberedDefinition)])).result := by
  have hrefused : Collection.ofDefinition "note" numberedDefinition
      = .error (.relationship [⟨.notText, [.entry "alias"]⟩,
        ⟨.notText, [.entry "target_collection"]⟩, ⟨.notText, [.entry "field_name"]⟩]) := by cbv
  have hschema : (Registry.ofDefinitions (.obj [("note", numberedDefinition)])).result
      = .error (.relationship [⟨.notText, [.entry "alias"]⟩,
        ⟨.notText, [.entry "target_collection"]⟩, ⟨.notText, [.entry "field_name"]⟩]) := by cbv
  refine ⟨hrefused, ?_, ?_⟩
  · intro h
    cases h _ hrefused
  · intro h
    cases h _ hschema

end StorageTypes
