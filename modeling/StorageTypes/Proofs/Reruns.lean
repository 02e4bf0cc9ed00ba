import StorageTypes.Proofs.Duality
import StorageTypes.Proofs.TypeTexts

namespace StorageTypes

variable {registry : Registry} {options other : Options} {collection : Collection}
  {declaration changed : Declaration} {name : String} {names : List String}
  {generated : Generated} {related : Collection → Declaration → Declaration → Prop}

/-- What two runs hand out that differ in their declarations at most, and there no further than
`related` allows, collection by collection. -/
structure Generated.Parallel (related : Collection → Declaration → Declaration → Prop)
    (registry : Registry) (names : List String) (first second : Generated) : Prop where
  imports : second.imports = first.imports
  warnings : second.warnings = first.warnings
  declarations : ∃ pairs : List (Declaration × Declaration),
    first.declarations = pairs.map (·.1.text) ∧ second.declarations = pairs.map (·.2.text)
    ∧ List.Forall₂ (fun name pair => ∃ collection, registry.get name = .ok collection
        ∧ related collection pair.1 pair.2) names pairs

/-- Collections whose declaration `options` can make and `other` as well, in a related form. -/
def Options.Follows (registry : Registry) (options other : Options)
    (related : Collection → Declaration → Declaration → Prop) : Prop :=
  ∀ collection declaration,
    declaration.IsOf collection options (Batch.keyTypesIn registry options) →
      ∃ changed : Declaration, changed.IsOf collection other (Batch.keyTypesIn registry other)
        ∧ related collection declaration changed

theorem Batch.warnings_of_isOf (hget : registry.get name = .ok collection)
    (h : declaration.IsOf collection options (keyTypesIn registry options)) :
    warningsOf (declare registry options name).log
      = (collection.relationships.flatMap fun relationship =>
          warningsWhereDeclared (collection.name, relationship))
        ++ collection.reverse.flatMap fun shown =>
          Backlink.warnings ⟨collection.name, shown.1, shown.2⟩ := by
  have hmade := Declaration.ofCollection_eq_ok_iff.2 h
  rw [warningsOf_declare hget hmade, warningsOf_ofCollection hmade]

theorem importsFor_congr (hcollections : other.collections = options.collections)
    (hresolver : other.resolver = options.resolver) (references : List String) :
    importsFor other references = importsFor options references := by
  simp only [importsFor, hcollections, hresolver]

theorem Batch.exists_redeclared (hfollows : options.Follows registry other related)
    {declarations : List Declaration}
    (h : List.Forall₂ (fun name declaration => ∃ collection, registry.get name = .ok collection
        ∧ declaration.IsOf collection options (keyTypesIn registry options)) names declarations) :
    ∃ pairs : List (Declaration × Declaration), pairs.map (·.1) = declarations
      ∧ List.Forall₂ (fun name pair => ∃ collection, registry.get name = .ok collection
          ∧ pair.1.IsOf collection options (keyTypesIn registry options)
          ∧ pair.2.IsOf collection other (keyTypesIn registry other)
          ∧ related collection pair.1 pair.2) names pairs := by
  induction h with
  | nil => exact ⟨[], rfl, .nil⟩
  | @cons name declaration _ _ hmade _ ih =>
    obtain ⟨collection, hget, hof⟩ := hmade
    obtain ⟨changed, hchanged, hrelated⟩ := hfollows collection declaration hof
    obtain ⟨pairs, hpairs, hrest⟩ := ih
    have hfirst : ((declaration, changed) :: pairs).map (·.1) = declaration :: _ :=
      congrArg (declaration :: ·) hpairs
    exact ⟨_, hfirst, .cons ⟨collection, hget, hof, hchanged, hrelated⟩ hrest⟩

theorem generateTexts_rerun (hcollections : other.collections = options.collections)
    (hresolver : other.resolver = options.resolver)
    (hfollows : options.Follows registry other related)
    (h : (generateTexts registry options).result = .ok generated) :
    ∃ again, (generateTexts registry other).result = .ok again
      ∧ Generated.Parallel related registry options.collections generated again := by
  obtain ⟨batch, hbatch, rfl⟩ := generateTexts_eq_ok_iff.1 h
  obtain ⟨pairs, hpairs, hall⟩ :=
    Batch.exists_redeclared hfollows (Batch.declarations_of_generate hbatch)
  have hreferences : (pairs.map (·.2)).flatMap (·.references)
      = batch.declarations.flatMap (·.references) := by
    rw [← hpairs, List.flatMap_def, List.flatMap_def, List.map_map, List.map_map]
    congr 1
    apply List.map_congr_left
    intro pair hpair
    obtain ⟨name, -, collection, -, hof, hchanged, -⟩ := exists_of_forall₂ hall.flip hpair
    exact hchanged.references.trans hof.references.symm
  have hagain : (Batch.generate registry other).result = .ok ⟨pairs.map (·.2), batch.imports⟩ := by
    rw [Batch.generate_eq_ok_iff]
    constructor
    · rw [hcollections, Batch.declareAll_eq_ok_iff, List.forall₂_map_right_iff]
      apply hall.imp
      intro name pair hpair
      obtain ⟨collection, hget, -, hchanged, -⟩ := hpair
      exact Batch.declare_eq_ok_iff.2 ⟨collection, hget, hchanged⟩
    · rw [importsFor_congr hcollections hresolver, hreferences]
      exact (Batch.generate_eq_ok_iff.1 hbatch).2
  refine ⟨_, generateTexts_eq_ok_iff.2 ⟨_, hagain, rfl⟩, ?_⟩
  constructor
  case imports => simp only [Generated.ofBatch]
  case warnings =>
    simp only [Generated.ofBatch, Batch.warningsOf_generate hagain,
      Batch.warningsOf_generate hbatch, hcollections, List.flatMap_def]
    congr 1
    apply List.map_congr_left
    intro name hname
    obtain ⟨pair, -, collection, hget, hof, hchanged, -⟩ := exists_of_forall₂ hall hname
    rw [Batch.warnings_of_isOf hget hchanged, Batch.warnings_of_isOf hget hof]
  case declarations =>
    refine ⟨pairs, ?_, ?_, ?_⟩
    · simp only [Generated.ofBatch, ← hpairs, List.map_map, Function.comp_def]
    · simp only [Generated.ofBatch, List.map_map, Function.comp_def]
    · apply hall.imp
      intro name pair hpair
      obtain ⟨collection, hget, -, -, hrelated⟩ := hpair
      exact ⟨collection, hget, hrelated⟩

end StorageTypes
