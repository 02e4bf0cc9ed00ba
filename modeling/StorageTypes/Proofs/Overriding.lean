import StorageTypes.Proofs.KeyTypes
import StorageTypes.Proofs.Reruns

namespace StorageTypes

variable {registry : Registry} {options : Options} {collection : Collection}
  {declaration : Declaration} {overrides : Dictionary String} {strategy : KeyStrategy}
  {kind type read name : String} {generated : Generated}

def Options.overriding (options : Options) (kind type : String) : Options :=
  { options with overrides := Dictionary.put kind type options.overrides }

namespace TypeMap

/-- Kinds `read` whose type an override for `kind` may change. -/
inductive Affects (strategy : KeyStrategy) (kind : String) : String → Prop where
  | declared (h : kind ≠ FieldKind.generatedKey) : Affects strategy kind kind
  | generated (h : kind = "int" ∧ strategy ≠ .text ∨ kind = "string" ∧ strategy ≠ .number) :
    Affects strategy kind FieldKind.generatedKey

theorem mem_kinds_iff :
    kind ∈ strategy.kinds
      ↔ kind = "int" ∧ strategy ≠ .text ∨ kind = "string" ∧ strategy ≠ .number := by
  cases strategy <;> simp [KeyStrategy.kinds]

theorem mem_sources_iff : kind ∈ sources strategy read ↔ Affects strategy kind read := by
  constructor
  · intro h
    by_cases hread : read = FieldKind.generatedKey
    · subst hread
      rw [sources_generated, mem_kinds_iff] at h
      exact .generated h
    · rw [sources_declared hread, List.mem_singleton] at h
      subst h
      exact .declared hread
  · intro h
    cases h with
    | declared hkind => simp [sources_declared hkind]
    | generated hkind => rwa [sources_generated, mem_kinds_iff]

theorem find?_merged (hdistinct : (Dictionary.names overrides).Nodup) (name : String) :
    Dictionary.find? name (merged overrides)
      = (Dictionary.find? name overrides).or (Dictionary.find? name defaults) := by
  rw [merged, Dictionary.find?_putAll,
    Dictionary.find?_perm name hdistinct (List.reverse_perm overrides).symm]

theorem typeOf_put (hdistinct : (Dictionary.names overrides).Nodup) (kind type read : String) :
    typeOf (Dictionary.put kind type overrides) read
      = if read = kind then type else typeOf overrides read := by
  have hput := Dictionary.nodup_names_put kind type hdistinct
  rw [typeOf, typeOf, find?_merged hput, find?_merged hdistinct, Dictionary.find?_put]
  by_cases h : kind = read
  · simp [h]
  · simp [h, Ne.symm h]

theorem typeText_put (hdistinct : (Dictionary.names overrides).Nodup)
    (kind type read : String) :
    typeText (Dictionary.put kind type overrides) strategy read
      = Text.join " | " ((sources strategy read).map fun source =>
          if source = kind then type else typeOf overrides source) := by
  rw [typeText, operands]
  congr 1
  apply List.map_congr_left
  intro source _
  exact typeOf_put hdistinct kind type source

theorem typeText_put_of_not_affects (hdistinct : (Dictionary.names overrides).Nodup)
    (type : String) (h : ¬Affects strategy kind read) :
    typeText (Dictionary.put kind type overrides) strategy read
      = typeText overrides strategy read := by
  rw [typeText_put hdistinct, typeText, operands]
  congr 1
  apply List.map_congr_left
  intro source hsource
  have hne : source ≠ kind := by
    intro hsame
    exact h (mem_sources_iff.1 (hsame ▸ hsource))
  exact if_neg hne

theorem resolves_put (hdistinct : (Dictionary.names overrides).Nodup) (kind : String)
    (htype : type ≠ "") (h : Resolves overrides read) :
    Resolves (Dictionary.put kind type overrides) read := by
  by_cases hread : read = FieldKind.generatedKey
  · exact .inl hread
  · rw [resolves_declared_iff hread] at h ⊢
    rw [typeOf_put hdistinct]
    split
    · exact htype
    · exact h

/-- A type before and after an override. -/
structure Replaced (overrides : Dictionary String) (strategy : KeyStrategy) (kind type read : String)
    (before after : String) : Prop where
  affected : after ≠ before → Affects strategy kind read
  after : after = Text.join " | " ((sources strategy read).map fun source =>
    if source = kind then type else typeOf overrides source)

theorem replaced_typeText (hdistinct : (Dictionary.names overrides).Nodup)
    (kind type read : String) :
    Replaced overrides strategy kind type read (typeText overrides strategy read)
      (typeText (Dictionary.put kind type overrides) strategy read) := by
  constructor
  case affected =>
    intro hchanged
    by_contra hnot
    exact hchanged (typeText_put_of_not_affects hdistinct type hnot)
  case after => exact typeText_put hdistinct kind type read

end TypeMap

theorem Collection.keyResolves_put (hdistinct : (Dictionary.names overrides).Nodup) (kind : String)
    (htype : type ≠ "") (h : collection.KeyResolves overrides) :
    collection.KeyResolves (Dictionary.put kind type overrides) := by
  rw [Collection.keyResolves_iff] at h ⊢
  obtain ⟨hkey, hgiven, hkind⟩ := h
  exact ⟨hkey, hgiven, TypeMap.resolves_put hdistinct kind htype hkind⟩

/-- A declaration before and after an override. The kinds are those of the key, of the fields and of
the keys of targets. -/
structure Declaration.Retyped (registry : Registry) (options : Options) (kind type : String)
    (collection : Collection) (before after : Declaration) : Prop where
  header : after.header = before.header
  key : after.key = { before.key with type := after.key.type }
  key_type : TypeMap.Replaced options.overrides options.strategy kind type collection.keyKind
    before.key.type after.key.type
  fields_length : after.fields.length = before.fields.length
  fields : List.Forall₂ (fun entry line => line.1.name = entry.1
      ∧ line.2 = { line.1 with type := line.2.type }
      ∧ TypeMap.Replaced options.overrides options.strategy kind type entry.2.kind
        line.1.type line.2.type)
    (collection.lineFields options) (before.fields.zip after.fields)
  forward_length : after.forward.length = before.forward.length
  forward : List.Forall₂ (fun link member => member.1.target = link.target
      ∧ member.2 = { member.1 with keyType := member.2.keyType }
      ∧ TypeMap.Replaced options.overrides options.strategy kind type
        (registry.keyKindOf link.target) member.1.keyType member.2.keyType)
    collection.links (before.forward.zip after.forward)
  reverse : after.reverse = before.reverse

theorem Declaration.retyped_written (hdistinct : (Dictionary.names options.overrides).Nodup)
    (registry : Registry) (collection : Collection) (kind type : String) :
    Declaration.Retyped registry options kind type collection
      (Declaration.written registry collection options
        (TypeMap.typeText options.overrides options.strategy))
      (Declaration.written registry collection (options.overriding kind type)
        (TypeMap.typeText (Dictionary.put kind type options.overrides) options.strategy)) := by
  have hreplaced (read : String) : TypeMap.Replaced options.overrides options.strategy kind type read
      (TypeMap.typeText options.overrides options.strategy read)
      (TypeMap.typeText (Dictionary.put kind type options.overrides) options.strategy read) :=
    TypeMap.replaced_typeText hdistinct kind type read
  have hlines : collection.lineFields (options.overriding kind type)
      = collection.lineFields options := rfl
  constructor
  case header =>
    simp only [Declaration.header, Declaration.parameters, Declaration.written, List.map_map]
    rfl
  case key => rfl
  case key_type => exact hreplaced collection.keyKind
  case fields_length => simp only [Declaration.written, hlines, List.length_map]
  case fields =>
    simp only [Declaration.written, hlines, List.zip_map']
    rw [List.forall₂_map_right_iff, List.forall₂_same]
    intro entry _
    exact ⟨rfl, rfl, hreplaced entry.2.kind⟩
  case forward_length => simp only [Declaration.written, List.length_map]
  case forward =>
    simp only [Declaration.written, List.zip_map']
    rw [List.forall₂_map_right_iff, List.forall₂_same]
    intro link _
    exact ⟨rfl, rfl, hreplaced (registry.keyKindOf link.target)⟩
  case reverse => rfl

theorem Batch.exists_keyTypesIn_overriding (hdistinct : (Dictionary.names options.overrides).Nodup)
    (kind : String) (htype : type ≠ "")
    (h : ∃ shown, Batch.keyTypesIn registry options name = .ok shown) :
    ∃ shown, Batch.keyTypesIn registry (options.overriding kind type) name = .ok shown := by
  rw [Batch.keyTypesIn_resolves_iff] at h ⊢
  obtain ⟨target, hget, hkey⟩ := h
  exact ⟨target, hget, Collection.keyResolves_put hdistinct kind htype hkey⟩

theorem Declaration.exists_isOf_overriding
    (hdistinct : (Dictionary.names options.overrides).Nodup) (kind : String) (htype : type ≠ "")
    (h : declaration.IsOf collection options (Batch.keyTypesIn registry options)) :
    ∃ retyped : Declaration, retyped.IsOf collection (options.overriding kind type)
      (Batch.keyTypesIn registry (options.overriding kind type)) := by
  simp only [← Declaration.ofCollection_eq_ok_iff, Declaration.exists_ofCollection_iff] at h ⊢
  obtain ⟨hkey, hfields, htargets⟩ := Declaration.exists_ofCollection_iff.1 ⟨declaration, h⟩
  refine ⟨Collection.keyResolves_put hdistinct kind htype hkey, ?_, ?_⟩
  · intro entry hentry
    rcases hfields entry hentry with hout | hresolves
    · exact .inl hout
    · exact .inr (TypeMap.resolves_put hdistinct kind htype hresolves)
  · intro link hlink
    exact Batch.exists_keyTypesIn_overriding hdistinct kind htype (htargets link hlink)

section

variable (hdistinct : (Dictionary.names options.overrides).Nodup) (type : String)

include hdistinct

theorem TypeMap.typeOf_overriding_generated (hread : read ≠ FieldKind.generatedKey) :
    TypeMap.typeOf (options.overriding FieldKind.generatedKey type).overrides read
      = TypeMap.typeOf options.overrides read := by
  rw [Options.overriding, TypeMap.typeOf_put hdistinct, if_neg hread]

theorem TypeMap.fieldType_overriding_generated (owner field read : String) :
    TypeMap.fieldType (options.overriding FieldKind.generatedKey type).overrides options.strategy
        owner field read
      = TypeMap.fieldType options.overrides options.strategy owner field read := by
  have htext : TypeMap.typeOf (options.overriding FieldKind.generatedKey type).overrides "string"
      = TypeMap.typeOf options.overrides "string" :=
    TypeMap.typeOf_overriding_generated hdistinct type (by decide)
  have hnumber : TypeMap.typeOf (options.overriding FieldKind.generatedKey type).overrides "int"
      = TypeMap.typeOf options.overrides "int" :=
    TypeMap.typeOf_overriding_generated hdistinct type (by decide)
  simp only [TypeMap.fieldType]
  split
  · cases options.strategy <;>
      simp only [TypeMap.generatedKeyType, KeyStrategy.name, htext, hnumber]
  · next hread =>
    simp only [TypeMap.declaredType, TypeMap.typeOf_overriding_generated hdistinct type hread]

theorem TypeMap.keyType_overriding_generated (collection : Collection) :
    TypeMap.keyType (options.overriding FieldKind.generatedKey type).overrides options.strategy
        collection
      = TypeMap.keyType options.overrides options.strategy collection := by
  cases hfield : TypeMap.keyField collection with
  | error fault => simp only [TypeMap.keyType, hfield]
  | ok field =>
    rw [TypeMap.keyType_of_keyField hfield, TypeMap.keyType_of_keyField hfield,
      TypeMap.fieldType_overriding_generated hdistinct]

theorem FieldMember.ofFields_overriding_generated (collection : Collection)
    (fields : Dictionary Field) :
    FieldMember.ofFields collection (options.overriding FieldKind.generatedKey type) fields
      = FieldMember.ofFields collection options fields := by
  induction fields with
  | nil => rfl
  | cons entry rest ih =>
    have hfield : FieldMember.ofField collection
          (options.overriding FieldKind.generatedKey type) entry.1 entry.2
        = FieldMember.ofField collection options entry.1 entry.2 := by
      have htype := TypeMap.fieldType_overriding_generated hdistinct type collection.name entry.1
        entry.2.kind
      simp only [FieldMember.ofField]
      rw [← htype]
      rfl
    simp only [FieldMember.ofFields, hfield, ih]

theorem Batch.declare_overriding_generated (registry : Registry) (name : String) :
    Batch.declare registry (options.overriding FieldKind.generatedKey type) name
      = Batch.declare registry options name := by
  have hkey (collection : Collection) :
      KeyMember.ofCollection collection (options.overriding FieldKind.generatedKey type)
        = KeyMember.ofCollection collection options := by
    have htype := TypeMap.keyType_overriding_generated hdistinct type collection
    simp only [KeyMember.ofCollection]
    rw [← htype]
    rfl
  have htypes : Batch.keyTypesIn registry (options.overriding FieldKind.generatedKey type)
      = Batch.keyTypesIn registry options := by
    funext target
    simp only [Batch.keyTypesIn]
    split
    · rfl
    · exact TypeMap.keyType_overriding_generated hdistinct type _
  simp only [Batch.declare, Declaration.ofCollection, hkey, htypes,
    FieldMember.ofFields_overriding_generated hdistinct]

theorem generateTexts_overriding_generated (registry : Registry) :
    generateTexts registry (options.overriding FieldKind.generatedKey type)
      = generateTexts registry options := by
  have hall (names : List String) :
      Batch.declareAll registry (options.overriding FieldKind.generatedKey type) names
        = Batch.declareAll registry options names := by
    induction names with
    | nil => rfl
    | cons name rest ih =>
      simp only [Batch.declareAll, Batch.declare_overriding_generated hdistinct, ih]
  have hnames : (options.overriding FieldKind.generatedKey type).collections
      = options.collections := rfl
  have himports (references : List String) :
      importsFor (options.overriding FieldKind.generatedKey type) references
        = importsFor options references := importsFor_congr rfl rfl references
  simp only [generateTexts, Batch.generate, hnames, hall, himports]

end

/-- What an override may change in a run. -/
structure Options.OverridesConfined (registry : Registry) (options : Options) : Prop where
  confined : ∀ kind type generated, type ≠ "" →
    (generateTexts registry options).result = .ok generated →
      ∃ retyped, (generateTexts registry (options.overriding kind type)).result = .ok retyped
        ∧ Generated.Parallel (Declaration.Retyped registry options kind type) registry
          options.collections generated retyped
  /-- No entry is ever read for generated keys. -/
  inert : ∀ type,
    generateTexts registry (options.overriding FieldKind.generatedKey type)
      = generateTexts registry options

/-- An override changes the types that are read from its entry and nothing else, and a type that is not
empty never breaks a run. -/
theorem overrides_confined (registry : Registry)
    (hdistinct : (Dictionary.names options.overrides).Nodup) :
    Options.OverridesConfined registry options := by
  constructor
  case confined =>
    intro kind type generated htype hgenerated
    refine generateTexts_rerun rfl rfl ?_ hgenerated
    intro collection declaration hof
    obtain ⟨retyped, hretyped⟩ := Declaration.exists_isOf_overriding hdistinct kind htype hof
    refine ⟨retyped, hretyped, ?_⟩
    rw [hof.eq_written, hretyped.eq_written]
    exact Declaration.retyped_written hdistinct registry collection kind type
  case inert =>
    intro type
    exact generateTexts_overriding_generated hdistinct type registry

def pathBatch : Batch :=
  ⟨[⟨"book", true, ⟨"id", "number", true⟩, [], [⟨"shelf", "shelf", "Path"⟩], []⟩], []⟩

theorem shelfOptions_overrides_confined :
    (Dictionary.names shelfOptions.overrides).Nodup
      ∧ (Batch.generate (Registry.after shelfActions) shelfOptions).result = .ok shelfBatch
      ∧ (Batch.generate (Registry.after shelfActions) (shelfOptions.overriding "slug" "Path")).result
        = .ok pathBatch
      ∧ Options.OverridesConfined (Registry.after shelfActions) shelfOptions := by
  have hdistinct : (Dictionary.names shelfOptions.overrides).Nodup := by decide
  exact ⟨hdistinct, rfl, rfl, overrides_confined _ hdistinct⟩

end StorageTypes
