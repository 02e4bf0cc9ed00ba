import StorageTypes.Proofs.Definitions
import StorageTypes.Proofs.Dictionary
import StorageTypes.Registry.Basic

namespace StorageTypes

open Json (Value)

variable {registry : Registry} {name : String} {definition : Value} {collection : Collection}
  {definitions before : List (String × Value)} {error : DefinitionError}

def Registry.registerInTurn (registry : Registry) (definitions : List (String × Value)) : Registry :=
  definitions.foldl (fun current entry => (current.register entry.1 entry.2).1) registry

def AllAccepted (definitions : List (String × Value)) : Prop :=
  ∀ entry ∈ definitions, ∃ collection, Collection.ofDefinition entry.1 entry.2 = .ok collection

/-- A registry after a collection was put under a name. -/
structure Registry.Places (before after : Registry) (name : String) (collection : Collection) :
    Prop where
  /-- A name that is there keeps its place among the others. -/
  inPlace : ∀ front old back, before.collections = front ++ (name, old) :: back →
    name ∉ Dictionary.names front → after.collections = front ++ (name, collection) :: back
  atEnd : name ∉ before.names → after.collections = before.collections ++ [(name, collection)]
  others : ∀ other, other ≠ name →
    Dictionary.find? other after.collections = Dictionary.find? other before.collections
  unfinished : after.initialized = false

namespace Registry

theorem register_result (registry : Registry) (name : String) (definition : Value) :
    (registry.register name definition).2 = Collection.ofDefinition name definition := by
  simp only [register]
  cases Collection.ofDefinition name definition <;> rfl

theorem register_of_error (h : Collection.ofDefinition name definition = .error error) :
    (registry.register name definition).1 = registry := by
  simp only [register, h]

theorem register_of_ok (h : Collection.ofDefinition name definition = .ok collection) :
    (registry.register name definition).1 = registry.place name collection := by
  simp only [register, h]

theorem place_places (registry : Registry) (name : String) (collection : Collection) :
    registry.Places (registry.place name collection) name collection := by
  constructor
  case inPlace =>
    intro front old back hstored hfront
    simp only [place, hstored]
    exact Dictionary.put_in_place old collection hfront
  case atEnd => exact Dictionary.put_of_new collection
  case others => exact fun other hother => Dictionary.find?_put_of_ne hother collection _
  case unfinished => rfl

theorem registerEach_result (registry : Registry) (definitions : List (String × Value)) :
    (registry.registerEach definitions).2
      = (eachOf (fun entry => Collection.ofDefinition entry.1 entry.2) definitions).map
          fun _ => () := by
  induction definitions generalizing registry with
  | nil => rfl
  | cons entry rest ih =>
    simp only [registerEach, register, eachOf]
    cases Collection.ofDefinition entry.1 entry.2 with
    | error error => rfl
    | ok collection =>
      simp only [ih]
      cases eachOf (fun entry => Collection.ofDefinition entry.1 entry.2) rest <;> rfl

theorem registerEach_eq_ok_iff :
    (registry.registerEach definitions).2 = .ok () ↔ AllAccepted definitions := by
  rw [registerEach_result, map_eq_ok_iff, AllAccepted, ← exists_eachOf_iff]
  simp

theorem registerEach_append (h : AllAccepted before) (rest : List (String × Value)) :
    registry.registerEach (before ++ rest) = (registry.registerInTurn before).registerEach rest := by
  induction before generalizing registry with
  | nil => rfl
  | cons entry others ih =>
    obtain ⟨⟨collection, hread⟩, hothers⟩ := List.forall_mem_cons.1 h
    have hturn : registry.registerInTurn (entry :: others)
        = (registry.place entry.1 collection).registerInTurn others := by
      rw [← register_of_ok hread]
      rfl
    rw [hturn, ← ih hothers, List.cons_append, registerEach]
    simp only [register, hread]

theorem registerInTurn_unfinished (h : AllAccepted before) (hbefore : before ≠ []) :
    (registry.registerInTurn before).initialized = false := by
  obtain ⟨others, last, rfl⟩ := (List.eq_nil_or_concat before).resolve_left hbefore
  obtain ⟨collection, hread⟩ := h last (by simp)
  have hturn : registry.registerInTurn (others.concat last)
      = ((registry.registerInTurn others).register last.1 last.2).1 := by
    simp [registerInTurn]
  rw [hturn, register_of_ok hread]
  rfl

theorem registerAll_stops (h : AllAccepted before)
    (hrefused : Collection.ofDefinition name definition = .error error)
    (after : List (String × Value)) :
    registry.registerAll (.obj (before ++ (name, definition) :: after))
      = (registry.registerInTurn before, .error error) := by
  simp only [registerAll, registerEach_append h, registerEach, register, hrefused]

theorem registerAll_eq_error (h : (registry.registerAll (.obj definitions)).2 = .error error) :
    ∃ before name definition after, definitions = before ++ (name, definition) :: after
      ∧ AllAccepted before ∧ Collection.ofDefinition name definition = .error error := by
  simp only [registerAll, registerEach_result, map_eq_error_iff, eachOf_eq_error_iff] at h
  obtain ⟨before, ⟨name, definition⟩, after, hdefinitions, hbefore, hrefused⟩ := h
  exact ⟨before, name, definition, after, hdefinitions, hbefore, hrefused⟩

/-- What registering does to a registry. -/
structure RegistersWhole (registry : Registry) : Prop where
  refused : ∀ name definition error, (registry.register name definition).2 = .error error →
    (registry.register name definition).1 = registry
  accepted : ∀ name definition collection, (registry.register name definition).2 = .ok collection →
    registry.Places (registry.register name definition).1 name collection
  model : ∀ name collection, registry.Places (registry.registerModel name collection).1 name
    (registry.registerModel name collection).2
  /-- The first definition that is refused ends the registration of several. -/
  stops : ∀ before name definition after error,
    (∀ entry ∈ before, ∃ collection, (registry.register entry.1 entry.2).2 = .ok collection) →
    (registry.register name definition).2 = .error error →
      registry.registerAll (.obj (before ++ (name, definition) :: after))
        = (registry.registerInTurn before, .error error)
  /-- No other failure is possible, and it is the first definition or the flag is cleared. -/
  stopped : ∀ definitions error, (registry.registerAll (.obj definitions)).2 = .error error →
    ∃ before name definition after, definitions = before ++ (name, definition) :: after
      ∧ (∀ entry ∈ before, ∃ collection, (registry.register entry.1 entry.2).2 = .ok collection)
      ∧ (registry.register name definition).2 = .error error
      ∧ (registry.registerAll (.obj definitions)).1 = registry.registerInTurn before
      ∧ (before = [] → (registry.registerAll (.obj definitions)).1 = registry)
      ∧ (before ≠ [] → (registry.registerAll (.obj definitions)).1.initialized = false)

/-- Registering is all or nothing for each definition, whatever the state of the registry. -/
theorem registers_whole (registry : Registry) : registry.RegistersWhole := by
  constructor
  case refused =>
    intro name definition error h
    rw [register_result] at h
    exact register_of_error h
  case accepted =>
    intro name definition collection h
    rw [register_result] at h
    rw [register_of_ok h]
    exact place_places registry name collection
  case model =>
    intro name collection
    exact place_places registry name { collection with name := name }
  case stops =>
    intro before name definition after error hbefore hrefused
    simp only [register_result] at hbefore hrefused
    exact registerAll_stops hbefore hrefused after
  case stopped =>
    intro definitions error h
    obtain ⟨before, name, definition, after, rfl, hbefore, hrefused⟩ := registerAll_eq_error h
    simp only [register_result]
    refine ⟨before, name, definition, after, rfl, hbefore, hrefused, ?_⟩
    rw [registerAll_stops hbefore hrefused after]
    refine ⟨rfl, ?_, registerInTurn_unfinished hbefore⟩
    rintro rfl
    rfl

end Registry

end StorageTypes
