import Mathlib.Data.List.Induction
import StorageTypes.Proofs.Batches
import StorageTypes.Proofs.Definitions
import StorageTypes.Proofs.Finishing
import StorageTypes.Registry.Change
import StorageTypes.Registry.Summary

namespace StorageTypes

open Json (Value)

variable {registry : Registry} {name : String} {collection : Collection}
  {collections next : Dictionary Collection}

/-- A step on a registry: a change, or a question. -/
inductive Action where
  | change (change : Change)
  | get (name : String)
  | describe
  | generate (options : Options)

inductive Answer where
  | changed (result : Except DefinitionError (Option Collection))
  | found (result : Except SchemaError Collection)
  | described (summary : Value)
  | generated (result : Except GenerationError Generated)

def Registry.act (registry : Registry) : Action → Registry × Answer
  | .change change => ((registry.change change).1, .changed (registry.change change).2)
  | .get name => (registry, .found (registry.get name))
  | .describe => (registry, .described registry.summary)
  | .generate options => (registry, .generated (generateTexts registry options).result)

def Registry.after (actions : List Action) : Registry :=
  actions.foldl (fun current action => (current.act action).1) empty

def accepted : List (String × Value) → List (String × Collection)
  | [] => []
  | (name, definition) :: rest =>
    match Collection.ofDefinition name definition with
    | .error _ => []
    | .ok collection => (name, collection) :: accepted rest

/-- The registrations that a change carries out, in order, even if it fails in the end. -/
def Change.registrations : Change → List (String × Collection)
  | .register name definition => accepted [(name, definition)]
  | .registerModel name collection => [(name, { collection with name := name })]
  | .registerAll (.obj entries) => accepted entries
  | .registerAll _ => []
  | .finish => []

def registrationsOf (actions : List Action) : List (String × Collection) :=
  actions.flatMap fun action =>
    match action with
    | .change change => change.registrations
    | _ => []

theorem SameButReverse.putAll (h : SameButReverse next collections)
    (changes : List (String × Collection)) :
    SameButReverse (Dictionary.putAll next changes) (Dictionary.putAll collections changes) := by
  rw [SameButReverse, Dictionary.mapValues_putAll, h, ← Dictionary.mapValues_putAll]

section

variable {keeps : Registry → Prop}
  (hplace : ∀ {registry : Registry} {name : String} {definition : Value} {collection : Collection},
    keeps registry → Collection.ofDefinition name definition = .ok collection →
      keeps (registry.place name collection))
  (h : keeps registry)

include hplace h

theorem register_keeps (name : String) (definition : Value) :
    keeps (registry.register name definition).1 := by
  simp only [Registry.register]
  split
  · exact h
  · next hread => exact hplace h hread

theorem registerEach_keeps (definitions : List (String × Value)) :
    keeps (registry.registerEach definitions).1 := by
  induction definitions generalizing registry with
  | nil => exact h
  | cons entry rest ih =>
    have hfirst := register_keeps hplace h entry.1 entry.2
    simp only [Registry.registerEach]
    split
    · next hstep => rwa [hstep] at hfirst
    · next hstep =>
      rw [hstep] at hfirst
      exact ih hfirst

end

theorem registerEach_stored (registry : Registry) (definitions : List (String × Value)) :
    (registry.registerEach definitions).1.collections
      = Dictionary.putAll registry.collections (accepted definitions) := by
  induction definitions generalizing registry with
  | nil => rfl
  | cons entry rest ih =>
    obtain ⟨name, definition⟩ := entry
    simp only [Registry.registerEach, Registry.register, accepted]
    cases Collection.ofDefinition name definition with
    | error e => rfl
    | ok collection => exact ih (registry.place name collection)

theorem change_stored (registry : Registry) (change : Change) :
    SameButReverse (registry.change change).1.collections
      (Dictionary.putAll registry.collections change.registrations) := by
  cases change with
  | register name definition =>
    simp only [Registry.change, Registry.register, Change.registrations, accepted]
    cases Collection.ofDefinition name definition <;> rfl
  | registerModel name collection => rfl
  | registerAll definitions =>
    cases definitions with
    | obj entries => exact congrArg _ (registerEach_stored registry entries)
    | _ => rfl
  | finish => exact registry.finish_same

theorem after_append_singleton (actions : List Action) (action : Action) :
    Registry.after (actions ++ [action]) = ((Registry.after actions).act action).1 := by
  simp [Registry.after]

theorem after_stored (actions : List Action) :
    SameButReverse (Registry.after actions).collections
      (Dictionary.ofList (registrationsOf actions)) := by
  induction actions using List.reverseRecOn with
  | nil => rfl
  | append_singleton actions action ih =>
    have hregistrations : registrationsOf (actions ++ [action])
        = registrationsOf actions ++ registrationsOf [action] := List.flatMap_append
    rw [after_append_singleton, hregistrations, Dictionary.ofList, Dictionary.putAll_append]
    cases action with
    | change change =>
      have hone : registrationsOf [.change change] = change.registrations :=
        List.flatMap_singleton _ _
      rw [hone]
      exact (change_stored _ change).trans (ih.putAll _)
    | _ => exact ih

/-- Registries in which names and collections fit together and, if they count as finished, every
relationship is shown as it is now. -/
structure Registry.Consistent (registry : Registry) : Prop where
  distinct : registry.names.Nodup
  named : ∀ name collection, Dictionary.find? name registry.collections = some collection →
    collection.name = name
  linkable : registry.initialized = true → Linkable registry.collections
  shown : registry.initialized = true → ∀ name collection,
    Dictionary.find? name registry.collections = some collection →
      collection.reverse = registry.scan name

namespace Registry.Consistent

theorem of_unfinished (hdistinct : registry.names.Nodup)
    (hnamed : ∀ name collection,
      Dictionary.find? name registry.collections = some collection → collection.name = name)
    (hflag : registry.initialized ≠ true) : registry.Consistent :=
  ⟨hdistinct, hnamed, fun h => absurd h hflag, fun h => absurd h hflag⟩

theorem empty : Registry.Consistent Registry.empty := by
  refine of_unfinished List.nodup_nil ?_ Bool.false_ne_true
  intro name collection hfind
  cases hfind

theorem place (h : registry.Consistent) (hname : collection.name = name) :
    (registry.place name collection).Consistent := by
  refine of_unfinished (Dictionary.nodup_names_put name collection h.distinct) ?_
    Bool.false_ne_true
  intro other stored hstored
  simp only [Registry.place, Dictionary.find?_put] at hstored
  split at hstored
  · next heq =>
    cases hstored
    exact hname.trans heq
  · exact h.named other stored hstored

theorem place_definition {definition : Value} (h : registry.Consistent)
    (hread : Collection.ofDefinition name definition = .ok collection) :
    (registry.place name collection).Consistent :=
  h.place (Collection.definedBy_of_ofDefinition hread).named

theorem register (h : registry.Consistent) (name : String) (definition : Value) :
    (registry.register name definition).1.Consistent :=
  register_keeps place_definition h name definition

theorem registerEach (h : registry.Consistent) (definitions : List (String × Value)) :
    (registry.registerEach definitions).1.Consistent :=
  registerEach_keeps place_definition h definitions

/-- Finishing cannot fail where it worked before, so the flag never outlives what it says. -/
theorem finish (h : registry.Consistent) : registry.finish.1.Consistent := by
  have hsame := registry.finish_same
  have hrelationships := hsame.relationships_eq.symm
  have hdistinct : registry.finish.1.names.Nodup := by
    rw [Registry.names, hsame.names_eq]
    exact h.distinct
  have hnamed (name : String) (collection : Collection)
      (hfind : Dictionary.find? name registry.finish.1.collections = some collection) :
      collection.name = name := by
    obtain ⟨stored, hfound, hwithout⟩ := hsame.exists_find? hfind
    have hname : stored.withoutReverse.name = collection.withoutReverse.name :=
      congrArg Collection.name hwithout
    exact hname.symm.trans (h.named name stored hfound)
  cases hresult : registry.finish.2 with
  | ok =>
    obtain ⟨hlinkable, -, hshown⟩ := Registry.finish_ok hresult
    refine ⟨hdistinct, hnamed, fun _ => Linkable.congr hrelationships hlinkable, fun _ => ?_⟩
    intro name collection hfind
    rw [hshown name collection hfind]
    exact Registry.scan_congr hrelationships name
  | error fault =>
    obtain ⟨hnot, hflag, -⟩ := Registry.finish_error hresult
    exact of_unfinished hdistinct hnamed fun hfinished => hnot (h.linkable (hflag ▸ hfinished))

theorem change (h : registry.Consistent) (change : Change) :
    (registry.change change).1.Consistent := by
  cases change with
  | register name definition => exact h.register name definition
  | registerModel name collection => exact h.place rfl
  | registerAll definitions =>
    cases definitions with
    | obj entries => exact h.registerEach entries
    | _ => exact h
  | finish => exact h.finish

end Registry.Consistent

theorem after_consistent (actions : List Action) : (Registry.after actions).Consistent := by
  induction actions using List.reverseRecOn with
  | nil => exact .empty
  | append_singleton actions action ih =>
    rw [after_append_singleton]
    cases action with
    | change change => exact ih.change change
    | _ => exact ih

theorem Registry.Consistent.reverse_of_get (h : registry.Consistent)
    (hget : registry.get name = .ok collection) : collection.reverse = registry.scan name := by
  obtain ⟨hflag, hfind⟩ := Registry.get_eq_ok_iff.1 hget
  exact h.shown hflag name collection hfind

/-- Registries that answer for registrations, first to last. -/
structure Registry.Tracks (registry : Registry) (registrations : List (String × Collection)) :
    Prop where
  /-- The names are those registered, in the order of their first registration. -/
  names_eq : registry.names = firsts (Dictionary.names registrations)
  /-- Under a name stands what was registered last, its reverse relationships apart. -/
  latest : ∀ name,
    (Dictionary.find? name registry.collections).map Collection.withoutReverse
      = (Dictionary.find? name registrations.reverse).map Collection.withoutReverse
  /-- A collection carries the name that it is registered under. -/
  named : ∀ entry ∈ registry.collections, entry.2.name = entry.1
  /-- Once finished, every collection shows what the scan of the relationships gives for it. -/
  scanned : registry.initialized = true →
    ∀ entry ∈ registry.collections, entry.2.reverse = registry.scan entry.1
  /-- So does a collection that is handed out. -/
  found : ∀ name collection, (registry.act (.get name)).2 = .found (.ok collection) →
    (name, collection) ∈ registry.collections ∧ collection.reverse = registry.scan name
  /-- Declarations are made from such collections, and only once the registry is finished. -/
  generated : ∀ options generated,
    (registry.act (.generate options)).2 = .generated (.ok generated) →
      options.collections ≠ [] →
        registry.initialized = true
        ∧ ∃ declarations : List Declaration,
            generated.declarations = declarations.map (·.text)
            ∧ List.Forall₂ (fun name declaration => ∃ collection,
                (name, collection) ∈ registry.collections
                ∧ collection.reverse = registry.scan name
                ∧ (Declaration.ofCollection collection options
                    (Batch.keyTypesIn registry options)).result = .ok declaration)
              options.collections declarations

/-- Whatever steps a registry has gone through, it answers for what was registered. -/
theorem after_exact (actions : List Action) :
    (Registry.after actions).Tracks (registrationsOf actions) := by
  have hconsistent := after_consistent actions
  have hstored := after_stored actions
  have hmem {name : String} {collection : Collection}
      (hget : (Registry.after actions).get name = .ok collection) :
      (name, collection) ∈ (Registry.after actions).collections :=
    Dictionary.mem_of_find? (Registry.get_eq_ok_iff.1 hget).2
  constructor
  case names_eq => rw [Registry.names, hstored.names_eq, Dictionary.names_ofList]
  case latest =>
    intro name
    rw [hstored.find?_map, Dictionary.find?_ofList]
  case named =>
    intro entry hentry
    exact hconsistent.named _ _ (Dictionary.find?_of_mem hconsistent.distinct hentry)
  case scanned =>
    intro hflag entry hentry
    exact hconsistent.shown hflag _ _ (Dictionary.find?_of_mem hconsistent.distinct hentry)
  case found =>
    intro name collection hanswer
    have hget := Answer.found.inj hanswer
    exact ⟨hmem hget, hconsistent.reverse_of_get hget⟩
  case generated =>
    intro options generated hanswer hcollections
    have hresult := Answer.generated.inj hanswer
    obtain ⟨batch, hbatch, rfl⟩ := generateTexts_eq_ok_iff.1 hresult
    have hall := Batch.declarations_of_generate hbatch
    refine ⟨?_, batch.declarations, rfl, hall.imp ?_⟩
    · obtain ⟨first, rest, hnames⟩ := List.exists_cons_of_ne_nil hcollections
      rw [hnames] at hall
      obtain ⟨_, _, ⟨collection, hget, -⟩, -, -⟩ := List.forall₂_cons_left_iff.1 hall
      exact (Registry.get_eq_ok_iff.1 hget).1
    · rintro name declaration ⟨collection, hget, hmade⟩
      exact ⟨collection, hmem hget, hconsistent.reverse_of_get hget,
        Declaration.ofCollection_eq_ok_iff.2 hmade⟩

end StorageTypes
