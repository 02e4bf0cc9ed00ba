import StorageTypes.Registry.Basic

namespace StorageTypes

open Json (Value)

/-- A change that is asked of a registry. -/
inductive Change where
  | register (name : String) (definition : Value)
  | registerModel (name : String) (collection : Collection)
  | registerAll (definitions : Value)
  | finish

namespace Registry

/-- The registry after a change, and the collection that was registered, if the change was about one,
or why the change failed. -/
def change (registry : Registry) :
    Change → Registry × Except DefinitionError (Option Collection)
  | .register name definition =>
    let (next, result) := registry.register name definition
    (next, result.map some)
  | .registerModel name collection =>
    let (next, named) := registry.registerModel name collection
    (next, .ok (some named))
  | .registerAll definitions =>
    let (next, result) := registry.registerAll definitions
    (next, result.map fun _ => none)
  | .finish =>
    let (next, result) := registry.finish
    (next, (result.mapError .schema).map fun _ => none)

def run (registry : Registry) (changes : List Change) : Registry :=
  changes.foldl (fun current step => (current.change step).1) registry

theorem run_append (registry : Registry) (before after : List Change) :
    registry.run (before ++ after) = (registry.run before).run after := by
  simp [run]

/-- Registries that changes can lead to from an empty one. -/
def Reachable (registry : Registry) : Prop :=
  ∃ changes, empty.run changes = registry

theorem Reachable.change {registry : Registry} (h : Reachable registry) (step : Change) :
    Reachable (registry.change step).1 := by
  obtain ⟨changes, rfl⟩ := h
  exact ⟨changes ++ [step], by simp [run]⟩

end Registry

end StorageTypes
