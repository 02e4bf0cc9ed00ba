import StorageTypes.Proofs.Separation

namespace StorageTypes

variable {registry : Registry} {options : Options} {collection : Collection} {keyTypes : KeyTypes}
  {overrides : Dictionary String} {strategy : KeyStrategy} {kind name field owner : String}
  {names : List String}

/-- Kinds that stand for a type: generated keys, and what the type map gives a text that is not
empty. -/
def TypeMap.Resolves (overrides : Dictionary String) (kind : String) : Prop :=
  kind = FieldKind.generatedKey
    ∨ ∃ type, Dictionary.find? kind (TypeMap.merged overrides) = some type ∧ type ≠ ""

def Collection.KeyResolves (collection : Collection) (overrides : Dictionary String) : Prop :=
  ∃ field, collection.key = .single field ∧ field ≠ ""
    ∧ ∀ declared, Dictionary.find? field collection.fields = some declared →
        TypeMap.Resolves overrides declared.kind

/-- Failures of looking up types. -/
inductive IsTypeFault : SchemaError → Prop where
  | key (collection : String) (key : Json.Value) : IsTypeFault (.unusableKey collection key)
  | kind (kind collection field : String) : IsTypeFault (.unresolvedKind kind collection field)

namespace TypeMap

theorem find?_merged_isSome (overrides : Dictionary String) (h : name ∈ Dictionary.names defaults) :
    (Dictionary.find? name (merged overrides)).isSome := by
  have hdefault := Dictionary.find?_isSome_iff.2 h
  rw [merged, Dictionary.find?_putAll]
  cases Dictionary.find? name overrides.reverse with
  | none => exact hdefault
  | some type => rfl

theorem typeOf_ne_empty_iff :
    typeOf overrides kind ≠ ""
      ↔ ∃ type, Dictionary.find? kind (merged overrides) = some type ∧ type ≠ "" := by
  simp only [typeOf]
  cases Dictionary.find? kind (merged overrides) <;> simp

theorem exists_fieldType_iff :
    (∃ type, fieldType overrides strategy owner field kind = .ok type)
      ↔ Resolves overrides kind := by
  rw [Resolves, ← typeOf_ne_empty_iff]
  simp only [fieldType, declaredType]
  split
  · next hgenerated => simp [hgenerated]
  · next hdeclared => split <;> simp [*]

theorem fieldType_failsOnly :
    FailsOnly IsTypeFault (fieldType overrides strategy owner field kind) := by
  simp only [fieldType, declaredType]
  split
  · exact .ok _
  · split
    · exact .error (.kind _ _ _)
    · exact .ok _

theorem keyField_eq_ok_iff :
    keyField collection = .ok field ↔ collection.key = .single field ∧ field ≠ "" := by
  simp only [keyField]
  cases collection.key with
  | single key =>
    by_cases hempty : key = ""
    · simp [hempty, eq_comm]
    · simp only [if_neg hempty, Except.ok.injEq, PrimaryKey.single.injEq, iff_self_and]
      rintro rfl
      exact hempty
  | absent => simp
  | composite fields => simp

theorem exists_keyType_iff (strategy : KeyStrategy) :
    (∃ type, keyType overrides strategy collection = .ok type)
      ↔ collection.KeyResolves overrides := by
  simp only [keyType, Collection.KeyResolves, ← and_assoc, ← keyField_eq_ok_iff]
  cases keyField collection with
  | error fault => simp
  | ok field =>
    simp only [Except.ok.injEq, exists_eq_left']
    cases Dictionary.find? field collection.fields with
    | none => simp
    | some declared => simp [exists_fieldType_iff]

theorem keyType_failsOnly : FailsOnly IsTypeFault (keyType overrides strategy collection) := by
  simp only [keyType]
  split
  · next fault hfault =>
    simp only [keyField] at hfault
    split at hfault
    · split at hfault <;> cases hfault
      exact .error (.key _ _)
    · cases hfault
      exact .error (.key _ _)
  · split
    · exact .ok _
    · exact fieldType_failsOnly

end TypeMap

theorem KeyMember.ofCollection_of_keyType {type : String}
    (h : TypeMap.keyType options.overrides options.strategy collection = .ok type) :
    ∃ field, KeyMember.ofCollection collection options = .ok ⟨field, type, options.optionalKey⟩ := by
  obtain ⟨field, hkey, hgiven, -⟩ := (TypeMap.exists_keyType_iff _).1 ⟨type, h⟩
  have hfield := TypeMap.keyField_eq_ok_iff.2 ⟨hkey, hgiven⟩
  exact ⟨field, KeyMember.ofCollection_eq_ok_iff.2 ⟨hfield, h, rfl⟩⟩

theorem KeyMember.exists_ofCollection_iff :
    (∃ member, KeyMember.ofCollection collection options = .ok member)
      ↔ collection.KeyResolves options.overrides := by
  rw [← TypeMap.exists_keyType_iff options.strategy]
  constructor
  · rintro ⟨member, hmember⟩
    exact ⟨member.type, (KeyMember.ofCollection_eq_ok_iff.1 hmember).2.1⟩
  · rintro ⟨type, htype⟩
    obtain ⟨field, hmember⟩ := KeyMember.ofCollection_of_keyType htype
    exact ⟨_, hmember⟩

theorem KeyMember.ofCollection_failsOnly :
    FailsOnly IsTypeFault (KeyMember.ofCollection collection options) := by
  intro fault hfault
  have hkeyType : FailsOnly IsTypeFault
      (TypeMap.keyType options.overrides options.strategy collection) := TypeMap.keyType_failsOnly
  simp only [KeyMember.ofCollection] at hfault
  split at hfault
  · next cause hcause =>
    cases hfault
    exact hkeyType _ (by simp only [TypeMap.keyType, hcause])
  · exact hkeyType fault (map_eq_error_iff.1 hfault)

theorem leavesOut_iff {declared : Field} :
    leavesOut collection options name declared = true
      ↔ declared.kind = FieldKind.foreignKey ∨ collection.key = .single name
        ∨ declared.kind ∈ options.skipped := by
  simp [leavesOut, or_assoc]

theorem FieldMember.exists_ofField_iff {declared : Field} :
    (∃ member, FieldMember.ofField collection options name declared = .ok member)
      ↔ leavesOut collection options name declared = true
        ∨ TypeMap.Resolves options.overrides declared.kind := by
  simp only [FieldMember.ofField]
  split
  · next hout => simp [hout]
  · next hin => simp [hin, map_eq_ok_iff, TypeMap.exists_fieldType_iff]

theorem FieldMember.ofField_failsOnly {declared : Field} :
    FailsOnly IsTypeFault (FieldMember.ofField collection options name declared) := by
  simp only [FieldMember.ofField]
  split
  · exact .ok none
  · exact TypeMap.fieldType_failsOnly.map _

theorem FieldMember.exists_ofFields_iff {fields : Dictionary Field} :
    (∃ members, FieldMember.ofFields collection options fields = .ok members)
      ↔ ∀ entry ∈ fields, leavesOut collection options entry.1 entry.2 = true
        ∨ TypeMap.Resolves options.overrides entry.2.kind := by
  induction fields with
  | nil => simp [FieldMember.ofFields]
  | cons entry rest ih =>
    rw [List.forall_mem_cons, ← ih, ← FieldMember.exists_ofField_iff]
    simp only [FieldMember.ofFields]
    cases FieldMember.ofField collection options entry.1 entry.2 with
    | error fault => simp
    | ok member => simp [map_eq_ok_iff]

theorem FieldMember.ofFields_failsOnly {fields : Dictionary Field} :
    FailsOnly IsTypeFault (FieldMember.ofFields collection options fields) := by
  induction fields with
  | nil => exact .ok []
  | cons entry rest ih =>
    have hfirst : FailsOnly IsTypeFault
        (FieldMember.ofField collection options entry.1 entry.2) := FieldMember.ofField_failsOnly
    simp only [FieldMember.ofFields]
    split
    · next fault hfault => exact .error (hfirst fault hfault)
    · exact ih.map _

theorem ForwardMember.exists_isFor_iff {links : List ChildOf} :
    (∃ members, List.Forall₂ (fun link member => ForwardMember.IsFor keyTypes link member)
        links members)
      ↔ ∀ link ∈ links, ∃ type, keyTypes link.target = .ok type := by
  induction links with
  | nil => simp
  | cons link rest ih =>
    rw [List.forall_mem_cons, ← ih]
    simp only [List.forall₂_cons_left_iff]
    constructor
    · rintro ⟨_, member, others, hmember, hothers, -⟩
      exact ⟨⟨member.keyType, hmember.keyType⟩, others, hothers⟩
    · rintro ⟨⟨type, htype⟩, others, hothers⟩
      exact ⟨_, ⟨link.forwardAlias, link.target, type⟩, others, ⟨rfl, rfl, htype⟩, hothers, rfl⟩

theorem membersOf_failsOnly {α β : Type} {allowed : SchemaError → Prop}
    {member : α → Logged SchemaError (Option β)} {entries : List α}
    (h : ∀ entry ∈ entries, FailsOnly allowed (member entry).result) :
    FailsOnly allowed (membersOf member entries).result := by
  induction entries with
  | nil => exact .ok []
  | cons entry rest ih =>
    obtain ⟨hfirst, hrest⟩ := List.forall_mem_cons.1 h
    exact Logged.bind_failsOnly hfirst fun found => Logged.map_failsOnly (ih hrest) _

theorem ForwardMember.ofRelationship_failsOnly {allowed : SchemaError → Prop}
    {relationship : Relationship}
    (h : ∀ link, relationship = .childOf link → FailsOnly allowed (keyTypes link.target)) :
    FailsOnly allowed (ForwardMember.ofRelationship name keyTypes relationship).result := by
  cases relationship with
  | childOf link => exact (h link rfl).map _
  | connects junction => exact .ok none

namespace Declaration

theorem exists_ofCollection_iff :
    (∃ declaration, (ofCollection collection options keyTypes).result = .ok declaration)
      ↔ collection.KeyResolves options.overrides
        ∧ (∀ entry ∈ collection.fields, leavesOut collection options entry.1 entry.2 = true
          ∨ TypeMap.Resolves options.overrides entry.2.kind)
        ∧ ∀ link ∈ collection.links, ∃ type, keyTypes link.target = .ok type := by
  simp only [ofCollection_eq_ok_iff, ← KeyMember.exists_ofCollection_iff,
    ← FieldMember.exists_ofFields_iff, ← ForwardMember.exists_isFor_iff]
  constructor
  · rintro ⟨declaration, hof⟩
    exact ⟨⟨_, hof.key⟩, ⟨_, hof.fields⟩, _, hof.forward⟩
  · rintro ⟨⟨key, hkey⟩, ⟨fields, hfields⟩, forward, hforward⟩
    exact ⟨⟨_, _, key, fields, forward, _⟩, ⟨rfl, rfl, hkey, hfields, hforward, rfl⟩⟩

theorem ofCollection_failsOnly
    (h : ∀ link ∈ collection.links, FailsOnly IsTypeFault (keyTypes link.target)) :
    FailsOnly IsTypeFault (ofCollection collection options keyTypes).result := by
  have hforward : FailsOnly IsTypeFault
      (membersOf (ForwardMember.ofRelationship collection.name keyTypes)
        collection.relationships).result := by
    refine membersOf_failsOnly fun relationship hrelationship => ?_
    refine ForwardMember.ofRelationship_failsOnly fun link hlink => ?_
    exact h link (Collection.mem_links_iff.2 (hlink ▸ hrelationship))
  refine Logged.bind_failsOnly KeyMember.ofCollection_failsOnly fun key => ?_
  refine Logged.bind_failsOnly FieldMember.ofFields_failsOnly fun fields => ?_
  refine Logged.bind_failsOnly hforward fun forward => Logged.map_failsOnly ?_ _
  rw [reverseMembers_result]
  exact .ok _

end Declaration

/-- Collections of which a declaration finds every type that it needs. -/
structure Collection.Resolves (collection : Collection) (registry : Registry) (options : Options) :
    Prop where
  key : collection.KeyResolves options.overrides
  targets : ∀ link, .childOf link ∈ collection.relationships → ∀ target,
    Dictionary.find? link.target registry.collections = some target →
      target.KeyResolves options.overrides
  fields : ∀ entry ∈ collection.fields, entry.2.kind ≠ FieldKind.foreignKey →
    collection.key ≠ .single entry.1 → entry.2.kind ∉ options.skipped →
      TypeMap.Resolves options.overrides entry.2.kind

theorem Registry.exists_get_iff {holds : Collection → Prop} (hflag : registry.initialized = true) :
    (∃ collection, registry.get name = .ok collection ∧ holds collection)
      ↔ ∃ collection, Dictionary.find? name registry.collections = some collection
        ∧ holds collection := by
  simp only [Registry.get_eq_ok_iff, hflag, true_and]

theorem fields_resolve_iff :
    (∀ entry ∈ collection.fields, leavesOut collection options entry.1 entry.2 = true
        ∨ TypeMap.Resolves options.overrides entry.2.kind)
      ↔ ∀ entry ∈ collection.fields, entry.2.kind ≠ FieldKind.foreignKey →
          collection.key ≠ .single entry.1 → entry.2.kind ∉ options.skipped →
            TypeMap.Resolves options.overrides entry.2.kind := by
  refine forall₂_congr fun entry hentry => ?_
  rw [leavesOut_iff, or_assoc, or_assoc]
  simp only [or_iff_not_imp_left, ne_eq]

namespace Batch

theorem exists_keyTypesIn_iff (hflag : registry.initialized = true) :
    (∃ type, keyTypesIn registry options name = .ok type)
      ↔ ∃ target, Dictionary.find? name registry.collections = some target
        ∧ target.KeyResolves options.overrides := by
  rw [← Registry.exists_get_iff hflag]
  simp only [keyTypesIn_eq_ok_iff, ← TypeMap.exists_keyType_iff options.strategy]
  constructor
  · rintro ⟨type, target, hget, htype⟩
    exact ⟨target, hget, type, htype⟩
  · rintro ⟨target, hget, type, htype⟩
    exact ⟨type, target, hget, htype⟩

theorem targets_resolve_iff (h : registry.Consistent) (hflag : registry.initialized = true)
    (hfind : Dictionary.find? name registry.collections = some collection) :
    (∀ link ∈ collection.links, ∃ type, keyTypesIn registry options link.target = .ok type)
      ↔ ∀ link, .childOf link ∈ collection.relationships → ∀ target,
          Dictionary.find? link.target registry.collections = some target →
            target.KeyResolves options.overrides := by
  simp only [exists_keyTypesIn_iff hflag]
  constructor
  · intro hall link hlink target htarget
    obtain ⟨found, hfound, hkey⟩ := hall link (Collection.mem_links_iff.2 hlink)
    obtain rfl : target = found := Option.some.inj (htarget.symm.trans hfound)
    exact hkey
  · intro hall link hlink
    have hname := h.target_mem_names hflag hfind hlink
    obtain ⟨target, htarget⟩ := Option.isSome_iff_exists.1 (Dictionary.find?_isSome_iff.2 hname)
    exact ⟨target, htarget, hall link (Collection.mem_links_iff.1 hlink) target htarget⟩

theorem exists_declare_iff (h : registry.Consistent) (hflag : registry.initialized = true) :
    (∃ declaration, (declare registry options name).result = .ok declaration)
      ↔ ∃ collection, Dictionary.find? name registry.collections = some collection
        ∧ collection.Resolves registry options := by
  rw [← Registry.exists_get_iff hflag]
  simp only [declare_eq_ok_iff, ← Declaration.ofCollection_eq_ok_iff]
  constructor
  · rintro ⟨declaration, collection, hget, hmade⟩
    obtain ⟨hkey, hfields, htargets⟩ := Declaration.exists_ofCollection_iff.1 ⟨declaration, hmade⟩
    have hfind := (Registry.get_eq_ok_iff.1 hget).2
    exact ⟨collection, hget, hkey, (targets_resolve_iff h hflag hfind).1 htargets,
      fields_resolve_iff.1 hfields⟩
  · rintro ⟨collection, hget, hkey, htargets, hfields⟩
    have hfind := (Registry.get_eq_ok_iff.1 hget).2
    obtain ⟨declaration, hmade⟩ := Declaration.exists_ofCollection_iff.2
      ⟨hkey, fields_resolve_iff.2 hfields, (targets_resolve_iff h hflag hfind).2 htargets⟩
    exact ⟨declaration, collection, hget, hmade⟩

/-- Failures of the declaration of a name: it is not registered, or a type is missing. -/
inductive IsDeclareFault (registry : Registry) (name : String) : SchemaError → Prop where
  | unknown (h : name ∉ registry.names) :
    IsDeclareFault registry name (.unknownCollection name registry.names)
  | type {fault : SchemaError} (h : IsTypeFault fault) : IsDeclareFault registry name fault

theorem keyTypesIn_failsOnly (hflag : registry.initialized = true) (hname : name ∈ registry.names) :
    FailsOnly IsTypeFault (keyTypesIn registry options name) := by
  obtain ⟨target, htarget⟩ := Option.isSome_iff_exists.1 (Dictionary.find?_isSome_iff.2 hname)
  have hget := Registry.get_eq_ok_iff.2 ⟨hflag, htarget⟩
  simp only [keyTypesIn, hget]
  exact TypeMap.keyType_failsOnly

theorem declare_failsOnly (h : registry.Consistent) (hflag : registry.initialized = true) :
    FailsOnly (IsDeclareFault registry name) (declare registry options name).result := by
  intro fault hfault
  rcases Logged.bind_eq_error_iff.1 hfault with hget | ⟨collection, hget, hmade⟩
  · simp only [Logged.ofExcept_result, Registry.get, if_pos hflag] at hget
    split at hget
    · cases hget
    · next hnone =>
      cases hget
      exact .unknown (Dictionary.find?_eq_none_iff.1 hnone)
  · have hfind := (Registry.get_eq_ok_iff.1 hget).2
    rcases Logged.bind_eq_error_iff.1 hmade with hdeclaration | ⟨declaration, -, hnote⟩
    · refine .type (Declaration.ofCollection_failsOnly (fun link hlink => ?_) fault hdeclaration)
      exact keyTypesIn_failsOnly hflag (h.target_mem_names hflag hfind hlink)
    · cases hnote

/-- Agreement of a run with what types there are. -/
structure DecidedByTypes (registry : Registry) (options : Options) : Prop where
  generated_iff : (∃ generated, (generateTexts registry options).result = .ok generated)
    ↔ ∀ name ∈ options.collections, ∃ collection,
        Dictionary.find? name registry.collections = some collection
        ∧ collection.Resolves registry options
  faults : ∀ error, (generateTexts registry options).result = .error error →
    ∃ fault, error = .schema fault
      ∧ ((∃ name ∈ options.collections, name ∉ registry.names
          ∧ fault = .unknownCollection name registry.names)
        ∨ fault.className = "MissingPrimaryKeyError" ∨ fault.className = "UnresolvedTypeError")
  /-- No target is unknown. -/
  targets : ∀ entry ∈ registry.collections, ∀ link, .childOf link ∈ entry.2.relationships →
    link.target ∈ registry.names
  /-- The kinds that generated keys go by never miss in the type map. -/
  generatedKeys : ∀ kind ∈ [KeyStrategy.text.name, KeyStrategy.number.name],
    ∃ type, Dictionary.find? kind (TypeMap.merged options.overrides) = some type
      ∧ TypeMap.typeOf options.overrides kind = type

end Batch

/-- Whatever steps have led to a finished registry, the types alone decide whether a batch without
imports can be generated, and a failure says which name or which type is missing. -/
theorem generated_iff_resolved (actions : List Action)
    (hfinished : (Registry.after actions).initialized = true) (hresolver : options.resolver = none) :
    Batch.DecidedByTypes (Registry.after actions) options := by
  have hconsistent := after_consistent actions
  have hresolves : options.ResolvesAll := by
    intro resolver hmem
    rw [hresolver] at hmem
    cases hmem
  constructor
  case generated_iff =>
    simp only [exists_texts_iff, Batch.exists_batch_iff hresolves,
      Batch.exists_declare_iff hconsistent hfinished]
  case faults =>
    intro error herror
    rw [generateTexts_eq_error_iff, Batch.generate_eq_error_iff hresolves] at herror
    obtain ⟨fault, hfault, rfl⟩ := herror
    rw [Batch.declareAll_result] at hfault
    obtain ⟨before, name, after, hnames, -, hname⟩ := eachOf_eq_error_iff.1 hfault
    refine ⟨fault, rfl, ?_⟩
    cases Batch.declare_failsOnly hconsistent hfinished fault hname with
    | unknown hout => exact .inl ⟨name, by simp [hnames], hout, rfl⟩
    | type htype =>
      cases htype with
      | key => exact .inr (.inl rfl)
      | kind => exact .inr (.inr rfl)
  case targets =>
    intro entry hentry link hlink
    have hfind := Dictionary.find?_of_mem hconsistent.distinct hentry
    exact hconsistent.target_mem_names hfinished hfind (Collection.mem_links_iff.2 hlink)
  case generatedKeys =>
    intro kind hkind
    have hdefault : kind ∈ Dictionary.names TypeMap.defaults := by
      revert kind
      decide
    obtain ⟨type, htype⟩ := Option.isSome_iff_exists.1
      (TypeMap.find?_merged_isSome options.overrides hdefault)
    exact ⟨type, htype, by rw [TypeMap.typeOf, htype, Option.getD_some]⟩

def shelfActions : List Action :=
  [.change (.registerAll (.obj
    [("shelf", .obj [("pkIndex", .str "code"),
      ("fields", .obj [("code", .obj [("type", .str "slug")])])]),
    ("book", .obj [("fields", .obj [("cover", .obj [("type", .str "media")]),
        ("shelf", .obj [("type", .str "foreign-key")])]),
      ("relationships", .arr [.obj [("childOf", .str "shelf")]])])])),
  .change .finish]

def shelfOptions : Options :=
  { collections := ["book"], overrides := [("slug", "Slug")], skipped := ["media"] }

theorem shelf_decided :
    (Registry.after shelfActions).initialized = true ∧ shelfOptions.resolver = none
      ∧ Batch.DecidedByTypes (Registry.after shelfActions) shelfOptions :=
  ⟨rfl, rfl, generated_iff_resolved shelfActions rfl rfl⟩

end StorageTypes
