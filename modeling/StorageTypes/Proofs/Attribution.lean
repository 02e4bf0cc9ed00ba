import StorageTypes.Proofs.Separation

namespace StorageTypes

open Json (Value)

variable {registry : Registry} {name : String} {collection : Collection} {changes : List Change}

/-- Changes whose models, if there are any, fit the name that they are registered under. -/
def Change.Attributed : Change → Prop
  | .registerModel name collection =>
    name ≠ "" ∧ ∀ relationship ∈ collection.relationships, relationship.source = name
  | _ => True

namespace Registry.Attributed

theorem change {change : Change} (h : registry.Attributed) (hchange : change.Attributed) :
    (registry.change change).1.Attributed := by
  cases change with
  | register name definition => exact register_keeps place_definition h name definition
  | registerModel name collection => exact h.place rfl hchange.1 hchange.2
  | registerAll definitions =>
    cases definitions with
    | obj entries => exact registerEach_keeps place_definition h entries
    | _ => exact h
  | finish => exact h.finish

theorem of_change {change : Change} (h : (registry.change change).1.Attributed) :
    change.Attributed := by
  cases change with
  | registerModel name collection =>
    have hmem := Dictionary.mem_put_self name { collection with name := name } registry.collections
    exact ⟨h.nonempty _ hmem, h.sourced _ hmem⟩
  | _ => trivial

end Registry.Attributed

theorem run_attributed (h : ∀ change ∈ changes, change.Attributed) :
    (Registry.empty.run changes).Attributed := by
  induction changes using List.reverseRecOn with
  | nil => exact .empty
  | append_singleton changes change ih =>
    obtain ⟨hbefore, hlast⟩ := List.forall_mem_append.1 h
    rw [Registry.run_append]
    exact (ih hbefore).change (hlast change List.mem_cons_self)

theorem run_attributed_iff :
    (∀ before after, changes = before ++ after → (Registry.empty.run before).Attributed)
      ↔ ∀ change ∈ changes, change.Attributed := by
  constructor
  · intro h change hchange
    obtain ⟨before, after, rfl⟩ := List.append_of_mem hchange
    have hlast := h (before ++ [change]) after (by simp)
    rw [Registry.run_append] at hlast
    exact hlast.of_change
  · rintro h before after rfl
    exact run_attributed fun change hchange => h change (List.mem_append_left _ hchange)

theorem run_eq_after (changes : List Change) :
    Registry.empty.run changes = Registry.after (changes.map .change) := by
  rw [Registry.after, List.foldl_map]
  rfl

theorem Registry.Attributed.loaded_finish (h : (Registry.empty.run changes).Attributed)
    (hfinish : (Registry.empty.run changes).finish.2 = .ok ()) :
    (Registry.empty.run changes).finish.1.Loaded := by
  have hconsistent := after_consistent (changes.map .change)
  rw [← run_eq_after] at hconsistent
  exact ⟨hconsistent.finish, (Registry.finish_ok hfinish).2.1, h.finish.toSourced⟩

/-- Registries that show and import nothing but what is there. -/
structure Registry.ShowsDeclared (registry : Registry) : Prop where
  /-- The source of what a collection shows is registered and declares it. -/
  reverse : ∀ entry ∈ registry.collections, ∀ shown ∈ entry.2.reverse,
    ∃ declaring, (shown.2.source, declaring) ∈ registry.collections
      ∧ shown.2 ∈ declaring.relationships
  segments : ∀ options batch, (Batch.generate registry options).result = .ok batch →
    ∀ declaration ∈ batch.declarations, ∀ member ∈ declaration.reverse,
      member.source ∈ registry.names
  imports : ∀ options batch, (Batch.generate registry options).result = .ok batch →
    ∀ item ∈ batch.imports, item.collection ∈ registry.names

theorem Batch.mem_names_of_reference {options : Options} {batch : Batch} {declaration : Declaration}
    (h : registry.Loaded) (hbatch : (Batch.generate registry options).result = .ok batch)
    (hdeclaration : declaration ∈ batch.declarations) (hname : name ∈ declaration.references) :
    name ∈ registry.names := by
  obtain ⟨first, -, hreferred⟩ := Batch.exists_referencesOf h hbatch hdeclaration hname
  exact h.mem_names_of_reference hreferred

theorem Registry.Loaded.showsDeclared (h : registry.Loaded) : registry.ShowsDeclared := by
  constructor
  case reverse =>
    intro entry hentry shown hshown
    exact h.declaring_of_reverse (Dictionary.find?_of_mem h.consistent.distinct hentry) hshown
  case segments =>
    intro options batch hbatch declaration hdeclaration member hmember
    exact Batch.mem_names_of_reference h hbatch hdeclaration
      (List.mem_append_right _ (List.mem_map_of_mem hmember))
  case imports =>
    intro options batch hbatch item hitem
    obtain ⟨hmentioned, -⟩ := (mem_importsFor (Batch.generate_eq_ok_iff.1 hbatch).2).1 hitem
    obtain ⟨declaration, hdeclaration, hname⟩ := List.mem_flatMap.1 hmentioned
    exact Batch.mem_names_of_reference h hbatch hdeclaration hname

/-- All along a run every relationship has the collection that declares it as its source, exactly if
every model that is registered fits its name; a registry that is finished after such a run shows and
imports nothing but what is there. -/
theorem attributed_exact (changes : List Change) :
    ((∀ before after, changes = before ++ after → (Registry.empty.run before).Attributed)
      ↔ ∀ change ∈ changes, change.Attributed)
    ∧ ((∀ change ∈ changes, change.Attributed) →
        (Registry.empty.run changes).finish.2 = .ok () →
          (Registry.empty.run changes).finish.1.ShowsDeclared) :=
  ⟨run_attributed_iff, fun h hfinish => ((run_attributed h).loaded_finish hfinish).showsDeclared⟩

def noteModel : Collection where
  name := "note"
  key := .single "id"
  relationships := [.childOf ⟨"list", "notes", false, "note", "list", none⟩]

/-- The model of notes registered as pages. -/
def pageChanges : List Change :=
  [.register "list" (.obj []), .registerModel "page" noteModel]

def listOptions : Options :=
  { collections := ["list"], resolver := some fun name => .ok ("./" ++ name) }

def listBatch : Batch :=
  ⟨[⟨"list", true, ⟨"id", "number", true⟩, [], [], [⟨"notes", "note", false⟩]⟩],
    [⟨"note", "./note"⟩]⟩

theorem page_not_attributed :
    Collection.check noteModel.toValue = .ok noteModel
      ∧ ¬(Registry.empty.run pageChanges).Attributed
      ∧ (Registry.empty.run pageChanges).finish.2 = .ok ()
      ∧ (Batch.generate (Registry.empty.run pageChanges).finish.1 listOptions).result = .ok listBatch
      ∧ "note" ∉ (Registry.empty.run pageChanges).finish.1.names := by
  refine ⟨rfl, fun h => ?_, rfl, rfl, by decide⟩
  have hsource := h.sourced ("page", { noteModel with name := "page" }) (by decide)
    (.childOf ⟨"list", "notes", false, "note", "list", none⟩) (by decide)
  exact absurd hsource (by decide)

end StorageTypes
