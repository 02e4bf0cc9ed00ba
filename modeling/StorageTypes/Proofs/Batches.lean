import StorageTypes.Generation.Batch
import StorageTypes.Proofs.Members

namespace StorageTypes

variable {registry : Registry} {options : Options} {name : String} {names : List String}
  {collection : Collection} {declaration : Declaration} {declarations : List Declaration}
  {batch : Batch} {generated : Generated}

theorem Registry.get_eq_ok_iff :
    registry.get name = .ok collection
      ↔ registry.initialized = true
        ∧ Dictionary.find? name registry.collections = some collection := by
  simp only [Registry.get]
  split
  · next hflag => split <;> simp [*]
  · next hflag => simp [hflag]

namespace Batch

theorem keyTypesIn_eq_ok_iff {type : String} :
    keyTypesIn registry options name = .ok type
      ↔ ∃ target, registry.get name = .ok target
        ∧ TypeMap.keyType options.overrides options.strategy target = .ok type := by
  simp only [keyTypesIn]
  cases registry.get name <;> simp

theorem declare_eq_ok_iff :
    (declare registry options name).result = .ok declaration
      ↔ ∃ collection, registry.get name = .ok collection
        ∧ declaration.IsOf collection options (keyTypesIn registry options) := by
  simp only [declare, Logged.bind_eq_ok_iff, Logged.ofExcept_result, Logged.map_eq_ok_iff,
    Declaration.ofCollection_eq_ok_iff]
  constructor
  · rintro ⟨collection, hget, made, hmade, _, _, rfl⟩
    exact ⟨collection, hget, hmade⟩
  · rintro ⟨collection, hget, hmade⟩
    exact ⟨collection, hget, declaration, hmade, (), rfl, rfl⟩

theorem declareAll_eq_ok_iff :
    (declareAll registry options names).result = .ok declarations
      ↔ List.Forall₂ (fun name declaration => (declare registry options name).result = .ok declaration)
          names declarations := by
  induction names generalizing declarations with
  | nil => simp [declareAll, Logged.pure, eq_comm]
  | cons name rest ih =>
    simp only [declareAll, Logged.bind_eq_ok_iff, Logged.map_eq_ok_iff, ih,
      List.forall₂_cons_left_iff]
    constructor
    · rintro ⟨first, hfirst, others, hothers, rfl⟩
      exact ⟨first, others, hfirst, hothers, rfl⟩
    · rintro ⟨first, others, hfirst, hothers, rfl⟩
      exact ⟨first, hfirst, others, hothers, rfl⟩

theorem log_declareAll (h : (declareAll registry options names).result = .ok declarations) :
    (declareAll registry options names).log
      = names.flatMap fun name => (declare registry options name).log := by
  induction names generalizing declarations with
  | nil => rfl
  | cons name rest ih =>
    obtain ⟨first, hfirst, hothers⟩ := Logged.bind_eq_ok_iff.1 h
    obtain ⟨others, hrest, -⟩ := Logged.map_eq_ok_iff.1 hothers
    rw [declareAll, Logged.log_bind hfirst, List.flatMap_cons, ← ih hrest]
    rfl

theorem warningsOf_declare (hget : registry.get name = .ok collection)
    (hmade : (Declaration.ofCollection collection options (keyTypesIn registry options)).result
      = .ok declaration) :
    warningsOf (declare registry options name).log
      = warningsOf
          (Declaration.ofCollection collection options (keyTypesIn registry options)).log := by
  have hfound : (Logged.ofExcept (registry.get name)).result = .ok collection := hget
  rw [declare, Logged.log_bind hfound, Logged.log_bind hmade, warningsOf_append, warningsOf_append]
  exact List.append_nil _

theorem generate_eq_ok_iff :
    (generate registry options).result = .ok batch
      ↔ (declareAll registry options options.collections).result = .ok batch.declarations
        ∧ importsFor options (batch.declarations.flatMap (·.references)) = .ok batch.imports := by
  simp only [generate, Logged.bind_eq_ok_iff, Logged.mapError_eq_ok_iff]
  constructor
  · rintro ⟨declarations, hdeclarations, hresult⟩
    split at hresult
    · cases hresult
    · next himports =>
      cases hresult
      exact ⟨hdeclarations, himports⟩
  · rintro ⟨hdeclarations, himports⟩
    refine ⟨batch.declarations, hdeclarations, ?_⟩
    rw [himports]

theorem warningsOf_flatMap {α : Type} (log : α → List LogEntry) (items : List α) :
    warningsOf (items.flatMap log) = items.flatMap fun item => warningsOf (log item) := by
  induction items with
  | nil => rfl
  | cons item rest ih => simp only [List.flatMap_cons, warningsOf_append, ih]

theorem warningsOf_generate (h : (generate registry options).result = .ok batch) :
    warningsOf (generate registry options).log
      = options.collections.flatMap fun name => warningsOf (declare registry options name).log := by
  obtain ⟨hdeclared, himports⟩ := generate_eq_ok_iff.1 h
  have hmapped : ((declareAll registry options options.collections).mapError
      GenerationError.schema).result = .ok batch.declarations :=
    Logged.mapError_eq_ok_iff.2 hdeclared
  rw [generate, Logged.log_bind hmapped, himports, warningsOf_append, ← warningsOf_flatMap,
    ← log_declareAll hdeclared]
  exact List.append_nil _

end Batch

theorem generateTexts_eq_ok_iff :
    (generateTexts registry options).result = .ok generated
      ↔ ∃ batch, (Batch.generate registry options).result = .ok batch
        ∧ Generated.ofBatch batch (Batch.generate registry options).log = generated :=
  map_eq_ok_iff

theorem Batch.declarations_of_generate (h : (Batch.generate registry options).result = .ok batch) :
    List.Forall₂ (fun name declaration => ∃ collection, registry.get name = .ok collection
        ∧ declaration.IsOf collection options (keyTypesIn registry options))
      options.collections batch.declarations := by
  have hall := declareAll_eq_ok_iff.1 (generate_eq_ok_iff.1 h).1
  exact hall.imp fun _ _ hdeclare => declare_eq_ok_iff.1 hdeclare

end StorageTypes
