import Mathlib.Data.List.Nodup
import StorageTypes.Proofs.Loading

namespace StorageTypes

open Json (Value)

variable {registry : Registry} {options : Options} {batch : Batch} {name other : String}
  {names : List String} {collection : Collection} {path : String → String}

/-- The collections that a collection refers to: the targets of the relationships that it declares,
then the sources of those that it shows. -/
def Collection.references (collection : Collection) : List String :=
  collection.links.map (·.target) ++ collection.reverseLinks.map (·.2.source)

def Registry.referencesOf (registry : Registry) (name : String) : List String :=
  ((Dictionary.find? name registry.collections).map (·.references)).getD []

def Registry.importedBy (registry : Registry) (names : List String) : List String :=
  (firsts (names.flatMap registry.referencesOf)).filter fun name => !names.contains name

theorem mem_importedBy :
    name ∈ registry.importedBy names
      ↔ (∃ first ∈ names, name ∈ registry.referencesOf first) ∧ name ∉ names := by
  simp [Registry.importedBy, mem_firsts]

theorem nodup_importedBy (registry : Registry) (names : List String) :
    (registry.importedBy names).Nodup :=
  (nodup_firsts _).filter _

theorem importAll_total (path : String → String) (names : List String) :
    importAll (fun name => .ok (path name)) names = .ok (names.map fun name => ⟨name, path name⟩) := by
  induction names with
  | nil => rfl
  | cons name rest ih =>
    simp only [importAll, ih]
    rfl

theorem Declaration.IsOf.references {declaration : Declaration} {keyTypes : KeyTypes}
    (h : declaration.IsOf collection options keyTypes) :
    declaration.references = collection.references := by
  rw [Declaration.references, h.targets, h.sources, Collection.references]

theorem Batch.references_of_generate (hloaded : registry.Loaded)
    (h : (Batch.generate registry options).result = .ok batch) :
    List.Forall₂ (fun name declaration => declaration.collection = name
        ∧ declaration.references = registry.referencesOf name)
      options.collections batch.declarations := by
  refine (Batch.declarations_of_generate h).imp ?_
  rintro name declaration ⟨collection, hget, hof⟩
  have hfind := (Registry.get_eq_ok_iff.1 hget).2
  refine ⟨hof.named.trans (hloaded.consistent.named name collection hfind), ?_⟩
  rw [hof.references, Registry.referencesOf, hfind]
  rfl

theorem Batch.exists_referencesOf {declaration : Declaration} (hloaded : registry.Loaded)
    (h : (Batch.generate registry options).result = .ok batch)
    (hdeclaration : declaration ∈ batch.declarations) (hname : name ∈ declaration.references) :
    ∃ first ∈ options.collections, name ∈ registry.referencesOf first := by
  obtain ⟨first, hfirst, -, hsame⟩ :=
    exists_of_forall₂ (Batch.references_of_generate hloaded h).flip hdeclaration
  exact ⟨first, hfirst, hsame ▸ hname⟩

theorem Registry.Loaded.mem_names_of_reference (h : registry.Loaded)
    (hmem : name ∈ registry.referencesOf other) : name ∈ registry.names := by
  simp only [Registry.referencesOf] at hmem
  cases hfind : Dictionary.find? other registry.collections with
  | none => simp [hfind] at hmem
  | some collection =>
    rw [hfind, Option.map_some, Option.getD_some, Collection.references] at hmem
    rcases List.mem_append.1 hmem with hforward | hreverse
    · obtain ⟨link, hlink, rfl⟩ := List.mem_map.1 hforward
      exact h.target_mem_names hfind hlink
    · obtain ⟨entry, hentry, rfl⟩ := List.mem_map.1 hreverse
      exact h.source_mem_names hfind hentry

theorem Batch.map_references (hloaded : registry.Loaded)
    (h : (Batch.generate registry options).result = .ok batch) :
    batch.declarations.map (·.references) = options.collections.map registry.referencesOf :=
  map_eq_of_forall₂ (Batch.references_of_generate hloaded h) fun _ _ hboth => hboth.2

theorem Batch.map_collections (hloaded : registry.Loaded)
    (h : (Batch.generate registry options).result = .ok batch) :
    batch.declarations.map (·.collection) = options.collections :=
  (map_eq_of_forall₂ (Batch.references_of_generate hloaded h) fun _ _ hboth => hboth.1).trans
    (List.map_id _)

theorem Batch.imports_of_generate (hloaded : registry.Loaded)
    (hresolver : options.resolver = some fun name => .ok (path name))
    (h : (Batch.generate registry options).result = .ok batch) :
    batch.imports
      = (registry.importedBy options.collections).map fun name => ⟨name, path name⟩ := by
  have himports := (Batch.generate_eq_ok_iff.1 h).2
  simp only [importsFor, hresolver] at himports
  rw [importAll_total, List.flatMap_def, Batch.map_references hloaded h, ← List.flatMap_def]
    at himports
  exact (Except.ok.inj himports).symm

/-- Agreement of what a batch imports with what its declarations name. -/
structure Batch.ImportsNeeded (batch : Batch) (registry : Registry) (options : Options)
    (path : String → String) : Prop where
  /-- The first mentions are imported in order, less those of the batch. -/
  imported : batch.imports.map (·.collection)
    = (firsts (options.collections.flatMap registry.referencesOf)).filter
        (· ∉ options.collections)
  text : ∃ generated, (generateTexts registry options).result = .ok generated
    ∧ generated.imports = (batch.imports.map (·.collection)).map fun name =>
        "import \x7b " ++ Text.upperFirst name ++ " \x7d from '" ++ path name ++ "'"
  declared : batch.declarations.map (·.collection) = options.collections
  /-- What a member names is declared in the batch, else imported once. -/
  covered : ∀ declaration ∈ batch.declarations,
    ∀ name ∈ declaration.forward.map (·.target) ++ declaration.reverse.map (·.source),
      (name ∈ options.collections ∧ name ∉ batch.imports.map (·.collection))
        ∨ name ∉ options.collections ∧ (batch.imports.map (·.collection)).count name = 1
  /-- What is imported is registered, declared elsewhere, and named by a member. -/
  needed : ∀ name ∈ batch.imports.map (·.collection),
    name ∉ options.collections ∧ name ∈ registry.names
    ∧ ∃ declaration ∈ batch.declarations,
        name ∈ declaration.forward.map (·.target) ++ declaration.reverse.map (·.source)

/-- A batch from a registry that was loaded imports what its declarations name and it does not declare
itself, and nothing else. -/
theorem imports_needed {definitions : Value}
    (hregistry : (Registry.ofDefinitions definitions).result = .ok registry)
    (hresolver : options.resolver = some fun name => .ok (path name))
    (hbatch : (Batch.generate registry options).result = .ok batch) :
    batch.ImportsNeeded registry options path := by
  have hloaded := loaded_of_ofDefinitions hregistry
  have himports := Batch.imports_of_generate hloaded hresolver hbatch
  have hnames : batch.imports.map (·.collection) = registry.importedBy options.collections := by
    rw [himports, List.map_map]
    exact List.map_id _
  have hmap := Batch.map_references hloaded hbatch
  constructor
  case imported => simp only [hnames, Registry.importedBy, List.contains_eq_mem, decide_not]
  case text =>
    refine ⟨_, generateTexts_eq_ok_iff.2 ⟨batch, hbatch, rfl⟩, ?_⟩
    simp only [Generated.ofBatch, himports, List.map_map]
    rfl
  case declared => exact Batch.map_collections hloaded hbatch
  case covered =>
    intro declaration hdeclaration name hname
    rw [hnames]
    obtain ⟨first, hfirst, hsame⟩ := List.mem_map.1 (hmap ▸ List.mem_map_of_mem hdeclaration)
    have hreferred : name ∈ registry.referencesOf first := hsame ▸ hname
    by_cases hin : name ∈ options.collections
    · exact .inl ⟨hin, fun himported => (mem_importedBy.1 himported).2 hin⟩
    · have himported := mem_importedBy.2 ⟨⟨first, hfirst, hreferred⟩, hin⟩
      exact .inr ⟨hin, List.count_eq_one_of_mem (nodup_importedBy _ _) himported⟩
  case needed =>
    intro name hname
    rw [hnames] at hname
    obtain ⟨⟨first, hfirst, hreferred⟩, hout⟩ := mem_importedBy.1 hname
    obtain ⟨declaration, hdeclaration, hsame⟩ := List.mem_map.1 (hmap ▸ List.mem_map_of_mem hfirst)
    have hmentioned : name ∈ declaration.references := hsame ▸ hreferred
    exact ⟨hout, hloaded.mem_names_of_reference hreferred, declaration, hdeclaration, hmentioned⟩

def threadDefinitions : Value :=
  .obj [("list", .obj []),
    ("note", .obj [("relationships", .arr [.obj [("childOf", .str "list")],
      .obj [("childOf", .str "note"), ("alias", .str "parent"), ("reverseAlias", .str "parts")]])]),
    ("reply", .obj [("relationships", .arr [.obj [("childOf", .str "note")],
      .obj [("connects", .arr [.str "reply", .str "list"])]])])]

def threadRegistry : Registry :=
  (Registry.empty.registerAll threadDefinitions).1.finish.1

def threadOptions : Options :=
  { collections := ["note"], resolver := some fun name => .ok ("./" ++ name) }

def threadBatch : Batch :=
  ⟨[⟨"note", true, ⟨"id", "number", true⟩, [],
      [⟨"list", "list", "number"⟩, ⟨"parent", "note", "number"⟩],
      [⟨"parts", "note", false⟩, ⟨"replies", "reply", false⟩]⟩],
    [⟨"list", "./list"⟩, ⟨"reply", "./reply"⟩]⟩

theorem threadBatch_imports_needed :
    (Registry.ofDefinitions threadDefinitions).result = .ok threadRegistry
      ∧ threadOptions.resolver = some (fun name => .ok ("./" ++ name))
      ∧ (Batch.generate threadRegistry threadOptions).result = .ok threadBatch
      ∧ threadBatch.ImportsNeeded threadRegistry threadOptions ("./" ++ ·) := by
  have hloaded : (Registry.ofDefinitions threadDefinitions).result = .ok threadRegistry := rfl
  have hmade : (Batch.generate threadRegistry threadOptions).result = .ok threadBatch := rfl
  exact ⟨hloaded, rfl, hmade, imports_needed hloaded rfl hmade⟩

end StorageTypes
