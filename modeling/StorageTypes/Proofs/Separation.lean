import StorageTypes.Proofs.Imports

namespace StorageTypes

variable {registry : Registry} {options : Options} {batch single : Batch} {name : String}
  {names references : List String} {declaration : Declaration} {error : GenerationError}

def Options.only (options : Options) (name : String) : Options :=
  { options with collections := [name] }

/-- Options whose resolver, if there is one, has a path for every collection. -/
def Options.ResolvesAll (options : Options) : Prop :=
  ∀ resolver ∈ options.resolver, ∀ name, ∃ path, resolver name = .ok path

theorem FieldMember.ofFields_only (collection : Collection) (name : String)
    (fields : Dictionary Field) :
    FieldMember.ofFields collection (options.only name) fields
      = FieldMember.ofFields collection options fields := by
  induction fields with
  | nil => rfl
  | cons entry rest ih =>
    have hfield : FieldMember.ofField collection (options.only name) entry.1 entry.2
        = FieldMember.ofField collection options entry.1 entry.2 := rfl
    simp only [FieldMember.ofFields, hfield, ih]

namespace Batch

theorem declare_only (registry : Registry) (options : Options) (other name : String) :
    declare registry (options.only other) name = declare registry options name := by
  have hkey (collection : Collection) :
      KeyMember.ofCollection collection (options.only other)
        = KeyMember.ofCollection collection options := rfl
  have htypes : keyTypesIn registry (options.only other) = keyTypesIn registry options := rfl
  simp only [declare, Declaration.ofCollection, hkey, htypes, FieldMember.ofFields_only]

theorem declareAll_result (registry : Registry) (options : Options) (names : List String) :
    (declareAll registry options names).result
      = eachOf (fun name => (declare registry options name).result) names := by
  induction names with
  | nil => rfl
  | cons name rest ih =>
    simp only [declareAll, Logged.bind, eachOf, ← ih]
    cases (declare registry options name).result <;> rfl

theorem declareAll_only (registry : Registry) (options : Options) (name : String) :
    (declareAll registry (options.only name) [name]).result
      = (declare registry options name).result.map ([·]) := by
  rw [declareAll_result]
  simp only [eachOf, declare_only]
  cases (declare registry options name).result <;> rfl

end Batch

theorem importAll_eq_eachOf (resolver : ImportPath.Resolver) (names : List String) :
    importAll resolver names = eachOf (fun name => (resolver name).map (Import.mk name)) names := by
  induction names with
  | nil => rfl
  | cons name rest ih =>
    simp only [importAll, eachOf, ih]
    cases resolver name <;> rfl

theorem mem_importAll {resolver : ImportPath.Resolver} {imports : List Import} {item : Import}
    (h : importAll resolver names = .ok imports) :
    item ∈ imports ↔ item.collection ∈ names ∧ resolver item.collection = .ok item.path := by
  rw [importAll_eq_eachOf] at h
  constructor
  · intro hitem
    obtain ⟨name, hname, hfound⟩ := exists_of_eachOf h hitem
    obtain ⟨path, hpath, rfl⟩ := map_eq_ok_iff.1 hfound
    exact ⟨hname, hpath⟩
  · rintro ⟨hname, hpath⟩
    exact mem_of_eachOf h hname (map_eq_ok_iff.2 ⟨item.path, hpath, rfl⟩)

theorem mem_importsFor {imports : List Import} {item : Import}
    (h : importsFor options references = .ok imports) :
    item ∈ imports ↔ item.collection ∈ references ∧ item.collection ∉ options.collections
      ∧ ∃ resolver ∈ options.resolver, resolver item.collection = .ok item.path := by
  simp only [importsFor] at h
  split at h
  · next hnone =>
    cases h
    simp [hnone]
  · next resolver hresolver =>
    rw [mem_importAll h]
    simp [hresolver, mem_firsts, and_assoc]

theorem importsFor_total (h : options.ResolvesAll) (references : List String) :
    ∃ imports, importsFor options references = .ok imports := by
  simp only [importsFor]
  split
  · exact ⟨[], rfl⟩
  · next resolver hresolver =>
    choose path hpath using h resolver hresolver
    obtain rfl : resolver = fun name => .ok (path name) := funext hpath
    exact ⟨_, importAll_total path _⟩

namespace Batch

theorem generate_only_eq_ok_iff :
    (generate registry (options.only name)).result = .ok single
      ↔ ∃ declaration, (declare registry options name).result = .ok declaration
        ∧ single.declarations = [declaration]
        ∧ importsFor (options.only name) declaration.references = .ok single.imports := by
  have hdeclared : (declareAll registry (options.only name) (options.only name).collections).result
      = (declare registry options name).result.map ([·]) :=
    declareAll_only registry options name
  rw [generate_eq_ok_iff, hdeclared, map_eq_ok_iff]
  constructor
  · rintro ⟨⟨declaration, hdeclare, hsingle⟩, himports⟩
    rw [← hsingle, List.flatMap_singleton] at himports
    exact ⟨declaration, hdeclare, hsingle.symm, himports⟩
  · rintro ⟨declaration, hdeclare, hsingle, himports⟩
    rw [hsingle, List.flatMap_singleton]
    exact ⟨⟨declaration, hdeclare, rfl⟩, himports⟩

theorem generate_eq_error_iff (h : options.ResolvesAll) :
    (generate registry options).result = .error error
      ↔ ∃ cause, (declareAll registry options options.collections).result = .error cause
        ∧ .schema cause = error := by
  simp only [generate, Logged.bind_eq_error_iff, Logged.mapError_eq_error_iff]
  constructor
  · rintro (hcause | ⟨declarations, -, hfailed⟩)
    · exact hcause
    · obtain ⟨imports, himports⟩ :=
        importsFor_total h (declarations.flatMap (·.references))
      rw [himports] at hfailed
      cases hfailed
  · exact Or.inl

theorem generate_only_eq_error_iff (h : options.ResolvesAll) :
    (generate registry (options.only name)).result = .error error
      ↔ ∃ cause, (declare registry options name).result = .error cause ∧ .schema cause = error := by
  have hresolves : (options.only name).ResolvesAll := h
  have hdeclared : (declareAll registry (options.only name) (options.only name).collections).result
      = (declare registry options name).result.map ([·]) :=
    declareAll_only registry options name
  simp only [generate_eq_error_iff hresolves, hdeclared, map_eq_error_iff]

theorem exists_single_iff (h : options.ResolvesAll) :
    (∃ single, (generate registry (options.only name)).result = .ok single)
      ↔ ∃ declaration, (declare registry options name).result = .ok declaration := by
  constructor
  · rintro ⟨single, hsingle⟩
    obtain ⟨declaration, hdeclare, -, -⟩ := generate_only_eq_ok_iff.1 hsingle
    exact ⟨declaration, hdeclare⟩
  · rintro ⟨declaration, hdeclare⟩
    have hresolves : (options.only name).ResolvesAll := h
    obtain ⟨imports, himports⟩ := importsFor_total hresolves declaration.references
    exact ⟨⟨[declaration], imports⟩, generate_only_eq_ok_iff.2 ⟨declaration, hdeclare, rfl, himports⟩⟩

theorem exists_batch_iff (h : options.ResolvesAll) :
    (∃ batch, (generate registry options).result = .ok batch)
      ↔ ∀ name ∈ options.collections,
          ∃ declaration, (declare registry options name).result = .ok declaration := by
  constructor
  · rintro ⟨batch, hbatch⟩ name hname
    have hall := declareAll_eq_ok_iff.1 (generate_eq_ok_iff.1 hbatch).1
    obtain ⟨declaration, -, hdeclare⟩ := exists_of_forall₂ hall hname
    exact ⟨declaration, hdeclare⟩
  · intro hall
    by_contra hnone
    obtain ⟨error, herror⟩ := exists_error_iff.2 hnone
    obtain ⟨cause, hcause, -⟩ := (generate_eq_error_iff h).1 herror
    rw [declareAll_result] at hcause
    obtain ⟨before, name, after, hnames, -, hname⟩ := eachOf_eq_error_iff.1 hcause
    have hmem : name ∈ options.collections := by simp [hnames]
    exact exists_error_iff.1 ⟨cause, hname⟩ (hall name hmem)

end Batch

theorem exists_texts_iff :
    (∃ generated, (generateTexts registry options).result = .ok generated)
      ↔ ∃ batch, (Batch.generate registry options).result = .ok batch := by
  constructor
  · rintro ⟨generated, h⟩
    obtain ⟨batch, hbatch, -⟩ := generateTexts_eq_ok_iff.1 h
    exact ⟨batch, hbatch⟩
  · rintro ⟨batch, hbatch⟩
    exact ⟨_, generateTexts_eq_ok_iff.2 ⟨batch, hbatch, rfl⟩⟩

theorem generateTexts_eq_error_iff :
    (generateTexts registry options).result = .error error
      ↔ (Batch.generate registry options).result = .error error :=
  map_eq_error_iff

theorem exists_single_texts (h : options.ResolvesAll)
    (hdeclare : (Batch.declare registry options name).result = .ok declaration) :
    ∃ single, (generateTexts registry (options.only name)).result = .ok single
      ∧ single.declarations = [declaration.text]
      ∧ single.warnings = warningsOf (Batch.declare registry options name).log := by
  obtain ⟨batch, hbatch⟩ := (Batch.exists_single_iff h).2 ⟨declaration, hdeclare⟩
  obtain ⟨same, hsame, hdeclarations, -⟩ := Batch.generate_only_eq_ok_iff.1 hbatch
  obtain rfl : declaration = same := Except.ok.inj (hdeclare.symm.trans hsame)
  refine ⟨_, generateTexts_eq_ok_iff.2 ⟨batch, hbatch, rfl⟩, ?_, ?_⟩
  · rw [Generated.ofBatch, hdeclarations]
    rfl
  · have hnames : (options.only name).collections = [name] := rfl
    have hwarnings := Batch.warningsOf_generate hbatch
    rwa [hnames, List.flatMap_singleton, Batch.declare_only] at hwarnings

theorem exists_all_texts (h : options.ResolvesAll) {declarations : List Declaration}
    (hall : List.Forall₂
      (fun name declaration => (Batch.declare registry options name).result = .ok declaration)
      names declarations) :
    ∃ singles, List.Forall₂
        (fun name single => (generateTexts registry (options.only name)).result = .ok single)
        names singles
      ∧ singles.map (·.declarations) = declarations.map (fun declaration => [declaration.text])
      ∧ singles.flatMap (·.warnings)
        = names.flatMap fun name => warningsOf (Batch.declare registry options name).log := by
  induction hall with
  | nil => exact ⟨[], .nil, rfl, rfl⟩
  | cons hdeclare _ ih =>
    obtain ⟨single, hsingle, htext, hwarnings⟩ := exists_single_texts h hdeclare
    obtain ⟨singles, hsingles, htexts, hothers⟩ := ih
    refine ⟨single :: singles, .cons hsingle hsingles, ?_, ?_⟩
    · rw [List.map_cons, List.map_cons, htext, htexts]
    · rw [List.flatMap_cons, List.flatMap_cons, hwarnings, hothers]

/-- Agreement of a batch with the batches of its collections, each made alone. -/
structure Batch.Separable (registry : Registry) (options : Options) : Prop where
  succeeds : (∃ generated, (generateTexts registry options).result = .ok generated)
    ↔ ∀ name ∈ options.collections,
        ∃ single, (generateTexts registry (options.only name)).result = .ok single
  /-- The failure is that of the first collection that fails alone. -/
  fails : ∀ before name after error, options.collections = before ++ name :: after →
    (∀ earlier ∈ before,
      ∃ single, (generateTexts registry (options.only earlier)).result = .ok single) →
    (generateTexts registry (options.only name)).result = .error error →
      (generateTexts registry options).result = .error error
  /-- Every collection alone gives one declaration, which is the one that stands in the batch. -/
  texts : ∀ generated, (generateTexts registry options).result = .ok generated →
    ∃ singles, List.Forall₂
        (fun name single => (generateTexts registry (options.only name)).result = .ok single)
        options.collections singles
      ∧ singles.map (·.declarations) = generated.declarations.map ([·])
      ∧ generated.warnings = singles.flatMap (·.warnings)
  imports : ∀ batch, (Batch.generate registry options).result = .ok batch → ∀ item,
    item ∈ batch.imports ↔ item.collection ∉ options.collections
      ∧ ∃ name ∈ options.collections, ∃ single,
          (Batch.generate registry (options.only name)).result = .ok single
          ∧ item ∈ single.imports

/-- A batch is what its collections are alone, whatever the registry: with a path for every collection,
neither the other collections nor their order have a say in a declaration. -/
theorem batch_separable (h : options.ResolvesAll) : Batch.Separable registry options := by
  constructor
  case succeeds =>
    simp only [exists_texts_iff, Batch.exists_batch_iff h, Batch.exists_single_iff h]
  case fails =>
    intro before name after error hnames hbefore hname
    rw [generateTexts_eq_error_iff] at hname ⊢
    obtain ⟨cause, hcause, rfl⟩ := (Batch.generate_only_eq_error_iff h).1 hname
    refine (Batch.generate_eq_error_iff h).2 ⟨cause, ?_, rfl⟩
    rw [Batch.declareAll_result]
    refine eachOf_eq_error_iff.2 ⟨before, name, after, hnames, fun earlier hearlier => ?_, hcause⟩
    exact (Batch.exists_single_iff h).1 (exists_texts_iff.1 (hbefore earlier hearlier))
  case texts =>
    intro generated hgenerated
    obtain ⟨batch, hbatch, rfl⟩ := generateTexts_eq_ok_iff.1 hgenerated
    have hall := Batch.declareAll_eq_ok_iff.1 (Batch.generate_eq_ok_iff.1 hbatch).1
    obtain ⟨singles, hsingles, htexts, hwarnings⟩ := exists_all_texts h hall
    refine ⟨singles, hsingles, ?_, ?_⟩
    · rw [htexts, Generated.ofBatch, List.map_map]
      rfl
    · rw [hwarnings, Generated.ofBatch, Batch.warningsOf_generate hbatch]
  case imports =>
    intro batch hbatch item
    obtain ⟨hdeclared, himports⟩ := Batch.generate_eq_ok_iff.1 hbatch
    have hall := Batch.declareAll_eq_ok_iff.1 hdeclared
    rw [mem_importsFor himports, List.mem_flatMap]
    constructor
    · rintro ⟨⟨declaration, hdeclaration, hreferred⟩, hout, hpath⟩
      obtain ⟨name, hname, hdeclare⟩ := exists_of_forall₂ hall.flip hdeclaration
      obtain ⟨single, hsingle⟩ := (Batch.exists_single_iff h).2 ⟨declaration, hdeclare⟩
      refine ⟨hout, name, hname, single, hsingle, ?_⟩
      obtain ⟨same, hsame, -, hown⟩ := Batch.generate_only_eq_ok_iff.1 hsingle
      obtain rfl : declaration = same := Except.ok.inj (hdeclare.symm.trans hsame)
      refine (mem_importsFor hown).2 ⟨hreferred, fun himself => hout ?_, hpath⟩
      exact List.mem_singleton.1 himself ▸ hname
    · rintro ⟨hout, name, hname, single, hsingle, hitem⟩
      obtain ⟨declaration, hdeclare, -, hown⟩ := Batch.generate_only_eq_ok_iff.1 hsingle
      obtain ⟨hreferred, -, hpath⟩ := (mem_importsFor hown).1 hitem
      obtain ⟨same, hsame, hdeclared'⟩ := exists_of_forall₂ hall hname
      obtain rfl : declaration = same := Except.ok.inj (hdeclare.symm.trans hdeclared')
      exact ⟨⟨declaration, hsame, hreferred⟩, hout, hpath⟩

def repeatedOptions : Options :=
  { collections := ["reply", "note", "reply"], resolver := some fun name => .ok ("./" ++ name) }

theorem repeated_separable :
    repeatedOptions.ResolvesAll ∧ Batch.Separable threadRegistry repeatedOptions := by
  have hresolves : repeatedOptions.ResolvesAll := by
    intro resolver hresolver name
    cases hresolver
    exact ⟨_, rfl⟩
  exact ⟨hresolves, batch_separable hresolves⟩

end StorageTypes
