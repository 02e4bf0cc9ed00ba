import StorageTypes.Proofs.Reruns

namespace StorageTypes

variable {registry : Registry} {options : Options} {collection : Collection}
  {declaration : Declaration} {kinds : List String} {generated : Generated}

def Options.skipping (options : Options) (kinds : List String) : Options :=
  { options with skipped := options.skipped ++ kinds }

/-- A declaration that lacks the lines of fields of some kinds in another. -/
structure Declaration.Sifted (collection : Collection) (options : Options) (kinds : List String)
    (full rest : Declaration) : Prop where
  header : rest.header = full.header
  key : rest.key = full.key
  forward : rest.forward = full.forward
  reverse : rest.reverse = full.reverse
  /-- In the full declaration every field has a line that is not left out anyway. -/
  lines : full.fields.map (·.name) = (collection.lineFields options).map (·.1)
  fields : rest.fields = (((collection.lineFields options).zip full.fields).filter
    fun line => line.1.2.kind ∉ kinds).map (·.2)
  text : rest.text = full.header ++ "\n" ++ Text.indent (Text.join " &\n"
    ([full.key.text] ++ (Text.block (rest.fields.map (·.text))).toList
      ++ (Text.block (full.forward.map (·.text))).toList ++ full.reverse.map (·.text)))
  /-- The block goes with its last line. -/
  gone : Text.block (rest.fields.map (·.text)) = none
    ↔ ∀ entry ∈ collection.lineFields options, entry.2.kind ∈ kinds

theorem leavesOut_skipping (name : String) (field : Field) :
    leavesOut collection (options.skipping kinds) name field
      = (leavesOut collection options name field || decide (field.kind ∈ kinds)) := by
  simp [leavesOut, Options.skipping, Bool.or_assoc]

theorem Collection.lineFields_skipping (collection : Collection) (options : Options)
    (kinds : List String) :
    collection.lineFields (options.skipping kinds)
      = (collection.lineFields options).filter fun entry => entry.2.kind ∉ kinds := by
  rw [Collection.lineFields, Collection.lineFields, List.filter_filter]
  apply List.filter_congr
  intro entry _
  rw [leavesOut_skipping, Bool.not_or, Bool.and_comm, decide_not]

theorem Declaration.exists_isOf_skipping (kinds : List String)
    (h : declaration.IsOf collection options (Batch.keyTypesIn registry options)) :
    ∃ rest : Declaration, rest.IsOf collection (options.skipping kinds)
      (Batch.keyTypesIn registry (options.skipping kinds)) := by
  simp only [← Declaration.ofCollection_eq_ok_iff, Declaration.exists_ofCollection_iff] at h ⊢
  obtain ⟨hkey, hfields, htargets⟩ := Declaration.exists_ofCollection_iff.1 ⟨declaration, h⟩
  refine ⟨hkey, ?_, htargets⟩
  intro entry hentry
  rw [leavesOut_skipping, Bool.or_eq_true]
  rcases hfields entry hentry with hout | hresolves
  · exact .inl (.inl hout)
  · exact .inr hresolves

theorem Declaration.sifted_written (registry : Registry) (collection : Collection)
    (options : Options) (kinds : List String) (types : String → String) :
    Declaration.Sifted collection options kinds
      (Declaration.written registry collection options types)
      (Declaration.written registry collection (options.skipping kinds) types) := by
  constructor
  case header => rfl
  case key => rfl
  case forward => rfl
  case reverse => rfl
  case lines =>
    simp only [Declaration.written, List.map_map]
    rfl
  case fields =>
    simp only [Declaration.written, Collection.lineFields_skipping]
    rw [← List.map_prod_left_eq_zip, List.filter_map, List.map_map]
    rfl
  case text => rfl
  case gone =>
    simp only [Declaration.written, Collection.lineFields_skipping]
    rw [Text.block_eq_none_iff]
    simp

/-- Skipping more kinds of fields takes away their lines, whether or not keys are of these kinds. -/
theorem skipping_sifts (kinds : List String)
    (h : (generateTexts registry options).result = .ok generated) :
    ∃ sifted, (generateTexts registry (options.skipping kinds)).result = .ok sifted
      ∧ Generated.Parallel
        (fun collection => Declaration.Sifted collection options kinds)
        registry options.collections generated sifted := by
  refine generateTexts_rerun rfl rfl ?_ h
  intro collection declaration hof
  obtain ⟨rest, hrest⟩ := Declaration.exists_isOf_skipping kinds hof
  refine ⟨rest, hrest, ?_⟩
  rw [hof.eq_written, hrest.eq_written]
  exact Declaration.sifted_written registry collection options kinds _

def coverOptions : Options :=
  { collections := ["book", "shelf"], overrides := [("slug", "Slug"), ("media", "Blob")] }

def coverBatch : Batch :=
  ⟨[⟨"book", true, ⟨"id", "number", true⟩, [⟨"cover", false, "Blob"⟩], [⟨"shelf", "shelf", "Slug"⟩],
      []⟩,
    ⟨"shelf", true, ⟨"code", "Slug", true⟩, [], [], [⟨"books", "book", false⟩]⟩], []⟩

def coverlessBatch : Batch :=
  ⟨[⟨"book", true, ⟨"id", "number", true⟩, [], [⟨"shelf", "shelf", "Slug"⟩], []⟩,
    ⟨"shelf", true, ⟨"code", "Slug", true⟩, [], [], [⟨"books", "book", false⟩]⟩], []⟩

theorem coverBatch_sifted :
    (Batch.generate (Registry.after shelfActions) coverOptions).result = .ok coverBatch
      ∧ (Batch.generate (Registry.after shelfActions)
          (coverOptions.skipping ["media", "slug"])).result = .ok coverlessBatch
      ∧ ∃ generated sifted,
        (generateTexts (Registry.after shelfActions) coverOptions).result = .ok generated
        ∧ (generateTexts (Registry.after shelfActions)
            (coverOptions.skipping ["media", "slug"])).result = .ok sifted
        ∧ Generated.Parallel
          (fun collection => Declaration.Sifted collection coverOptions ["media", "slug"])
          (Registry.after shelfActions) ["book", "shelf"] generated sifted := by
  have hfull : (Batch.generate (Registry.after shelfActions) coverOptions).result
      = .ok coverBatch := rfl
  have htexts := generateTexts_eq_ok_iff.2 ⟨_, hfull, rfl⟩
  obtain ⟨sifted, hsifted, hparallel⟩ := skipping_sifts ["media", "slug"] htexts
  exact ⟨hfull, rfl, _, sifted, htexts, hsifted, hparallel⟩

end StorageTypes
