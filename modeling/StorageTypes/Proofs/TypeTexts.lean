import StorageTypes.Proofs.Resolution

namespace StorageTypes

variable {registry : Registry} {options : Options} {collection : Collection}
  {declaration : Declaration} {overrides : Dictionary String} {strategy : KeyStrategy}
  {kind name field owner type : String}

def KeyStrategy.kinds : KeyStrategy → List String
  | .text => ["string"]
  | .number => ["int"]
  | .either => ["int", "string"]

namespace TypeMap

/-- The kinds whose entries make up the type of a kind. -/
def sources (strategy : KeyStrategy) (kind : String) : List String :=
  if kind = FieldKind.generatedKey then strategy.kinds else [kind]

def operands (overrides : Dictionary String) (strategy : KeyStrategy) (kind : String) :
    List String :=
  (sources strategy kind).map (typeOf overrides)

def typeText (overrides : Dictionary String) (strategy : KeyStrategy) (kind : String) : String :=
  Text.join " | " (operands overrides strategy kind)

theorem sources_generated (strategy : KeyStrategy) :
    sources strategy FieldKind.generatedKey = strategy.kinds := if_pos rfl

theorem sources_declared (h : kind ≠ FieldKind.generatedKey) : sources strategy kind = [kind] :=
  if_neg h

theorem typeText_generated (overrides : Dictionary String) (strategy : KeyStrategy) :
    typeText overrides strategy FieldKind.generatedKey = generatedKeyType overrides strategy := by
  rw [typeText, operands, sources_generated]
  cases strategy with
  | text => exact String.ofList_toList
  | number => exact String.ofList_toList
  | either =>
    apply String.toList_injective
    simp [KeyStrategy.kinds, Text.join, Text.glue, generatedKeyType, KeyStrategy.name]

theorem typeText_declared (h : kind ≠ FieldKind.generatedKey) :
    typeText overrides strategy kind = typeOf overrides kind := by
  rw [typeText, operands, sources_declared h]
  exact String.ofList_toList

theorem resolves_generated (overrides : Dictionary String) :
    Resolves overrides FieldKind.generatedKey := .inl rfl

theorem resolves_declared_iff (h : kind ≠ FieldKind.generatedKey) :
    Resolves overrides kind ↔ typeOf overrides kind ≠ "" := by
  rw [Resolves, typeOf_ne_empty_iff]
  exact or_iff_right h

theorem fieldType_eq_ok_iff :
    fieldType overrides strategy owner field kind = .ok type
      ↔ Resolves overrides kind ∧ typeText overrides strategy kind = type := by
  by_cases hkind : kind = FieldKind.generatedKey
  · subst hkind
    simp [fieldType, typeText_generated, resolves_generated]
  · rw [resolves_declared_iff hkind, typeText_declared hkind]
    simp only [fieldType, declaredType, if_neg hkind]
    split <;> simp [*]

theorem fieldType_of_not_resolves (h : ¬Resolves overrides kind) :
    fieldType overrides strategy owner field kind = .error (.unresolvedKind kind owner field) := by
  have hkind : kind ≠ FieldKind.generatedKey := fun hkind => h (.inl hkind)
  rw [resolves_declared_iff hkind, not_not] at h
  simp only [fieldType, declaredType, if_neg hkind, if_pos h]

end TypeMap

def Collection.keyName (collection : Collection) : String :=
  match collection.key with
  | .single field => field
  | _ => ""

def Collection.keyKind (collection : Collection) : String :=
  ((Dictionary.find? collection.keyName collection.fields).map (·.kind)).getD
    FieldKind.generatedKey

theorem Collection.keyName_of_key (h : collection.key = .single field) :
    collection.keyName = field := by
  simp only [Collection.keyName, h]

theorem Collection.keyResolves_iff :
    collection.KeyResolves overrides
      ↔ collection.key = .single collection.keyName ∧ collection.keyName ≠ ""
        ∧ TypeMap.Resolves overrides collection.keyKind := by
  have hkind : (∀ declared,
        Dictionary.find? collection.keyName collection.fields = some declared →
          TypeMap.Resolves overrides declared.kind)
      ↔ TypeMap.Resolves overrides collection.keyKind := by
    simp only [Collection.keyKind]
    cases Dictionary.find? collection.keyName collection.fields with
    | none => simp [TypeMap.resolves_generated]
    | some declared => simp
  rw [← hkind]
  constructor
  · intro h
    obtain ⟨field, hkey, hgiven, hdeclared⟩ := h
    rw [Collection.keyName_of_key hkey]
    exact ⟨hkey, hgiven, hdeclared⟩
  · intro h
    exact ⟨_, h⟩

namespace TypeMap

theorem keyType_of_keyField (h : keyField collection = .ok field) :
    keyType overrides strategy collection
      = fieldType overrides strategy collection.name field collection.keyKind := by
  have hname := Collection.keyName_of_key (keyField_eq_ok_iff.1 h).1
  simp only [keyType, h, Collection.keyKind, hname]
  cases Dictionary.find? field collection.fields with
  | none => simp [fieldType]
  | some declared => rfl

theorem keyType_eq_ok_iff :
    keyType overrides strategy collection = .ok type
      ↔ collection.KeyResolves overrides
        ∧ typeText overrides strategy collection.keyKind = type := by
  constructor
  · intro h
    have hresolves := (exists_keyType_iff strategy).1 ⟨type, h⟩
    obtain ⟨hkey, hgiven, -⟩ := Collection.keyResolves_iff.1 hresolves
    rw [keyType_of_keyField (keyField_eq_ok_iff.2 ⟨hkey, hgiven⟩)] at h
    exact ⟨hresolves, (fieldType_eq_ok_iff.1 h).2⟩
  · intro h
    obtain ⟨hresolves, htype⟩ := h
    obtain ⟨hkey, hgiven, hkind⟩ := Collection.keyResolves_iff.1 hresolves
    rw [keyType_of_keyField (keyField_eq_ok_iff.2 ⟨hkey, hgiven⟩)]
    exact fieldType_eq_ok_iff.2 ⟨hkind, htype⟩

theorem keyType_of_not_resolves (h : keyField collection = .ok field)
    (hkind : ¬Resolves overrides collection.keyKind) :
    keyType overrides strategy collection
      = .error (.unresolvedKind collection.keyKind collection.name field) := by
  rw [keyType_of_keyField h]
  exact fieldType_of_not_resolves hkind

end TypeMap

def Collection.lineFields (collection : Collection) (options : Options) : Dictionary Field :=
  collection.fields.filter fun entry => !leavesOut collection options entry.1 entry.2

def Registry.keyKindOf (registry : Registry) (name : String) : String :=
  ((Dictionary.find? name registry.collections).map (·.keyKind)).getD FieldKind.generatedKey

/-- The declaration of a collection with a text for the type of every kind. -/
def Declaration.written (registry : Registry) (collection : Collection) (options : Options)
    (types : String → String) : Declaration where
  collection := collection.name
  hasRelationships := collection.hasRelationships
  key := ⟨collection.keyName, types collection.keyKind, options.optionalKey⟩
  fields := (collection.lineFields options).map fun entry =>
    ⟨entry.1, entry.2.optional, types entry.2.kind⟩
  forward := collection.links.map fun link =>
    ⟨link.forwardAlias, link.target, types (registry.keyKindOf link.target)⟩
  reverse := collection.reverseLinks.map ReverseMember.ofLink

theorem FieldMember.ofFields_eq_written {fields : Dictionary Field} {members : List FieldMember}
    (h : FieldMember.ofFields collection options fields = .ok members) :
    members = (fields.filter fun entry => !leavesOut collection options entry.1 entry.2).map
      fun entry => ⟨entry.1, entry.2.optional,
        TypeMap.typeText options.overrides options.strategy entry.2.kind⟩ := by
  induction fields generalizing members with
  | nil => exact (Except.ok.inj h).symm
  | cons entry rest ih =>
    simp only [FieldMember.ofFields, FieldMember.ofField] at h
    split at h
    · cases h
    · next found hfound =>
      obtain ⟨others, hothers, rfl⟩ := map_eq_ok_iff.1 h
      rw [ih hothers, List.filter_cons]
      split at hfound
      · next hout =>
        cases hfound
        simp [hout]
      · next hin =>
        obtain ⟨type, htype, rfl⟩ := map_eq_ok_iff.1 hfound
        simp [hin, (TypeMap.fieldType_eq_ok_iff.1 htype).2]

theorem Batch.keyTypesIn_eq_written (h : Batch.keyTypesIn registry options name = .ok type) :
    type = TypeMap.typeText options.overrides options.strategy (registry.keyKindOf name) := by
  obtain ⟨target, hget, htype⟩ := Batch.keyTypesIn_eq_ok_iff.1 h
  rw [Registry.keyKindOf, (Registry.get_eq_ok_iff.1 hget).2]
  exact (TypeMap.keyType_eq_ok_iff.1 htype).2.symm

theorem Declaration.IsOf.eq_written
    (h : declaration.IsOf collection options (Batch.keyTypesIn registry options)) :
    declaration = Declaration.written registry collection options
      (TypeMap.typeText options.overrides options.strategy) := by
  obtain ⟨hnamed, hrelationships, hkey, hfields, hforward, hreverse⟩ := h
  obtain ⟨hfield, htype, hoptional⟩ := KeyMember.ofCollection_eq_ok_iff.1 hkey
  have hname := Collection.keyName_of_key (TypeMap.keyField_eq_ok_iff.1 hfield).1
  have htext := (TypeMap.keyType_eq_ok_iff.1 htype).2
  have hlines := FieldMember.ofFields_eq_written hfields
  have hmembers : List.Forall₂ Eq
      (collection.links.map fun link => ⟨link.forwardAlias, link.target,
        TypeMap.typeText options.overrides options.strategy (registry.keyKindOf link.target)⟩)
      declaration.forward := by
    apply List.forall₂_map_left_iff.2
    apply hforward.imp
    intro link member hmember
    rw [← Batch.keyTypesIn_eq_written hmember.keyType, ← hmember.forwardAlias, ← hmember.target]
  rw [List.forall₂_eq_eq_eq] at hmembers
  obtain ⟨_, _, ⟨_, _, _⟩, _, _, _⟩ := declaration
  simp only [Declaration.written, Declaration.mk.injEq, KeyMember.mk.injEq]
  exact ⟨hnamed, hrelationships, ⟨hname.symm, htext.symm, hoptional⟩, hlines, hmembers.symm, hreverse⟩

theorem Batch.keyTypesIn_resolves_iff :
    (∃ type, Batch.keyTypesIn registry options name = .ok type)
      ↔ ∃ target, registry.get name = .ok target ∧ target.KeyResolves options.overrides := by
  simp only [Batch.keyTypesIn_eq_ok_iff, ← TypeMap.exists_keyType_iff options.strategy]
  constructor
  · intro h
    obtain ⟨type, target, hget, htype⟩ := h
    exact ⟨target, hget, type, htype⟩
  · intro h
    obtain ⟨target, hget, type, htype⟩ := h
    exact ⟨type, target, hget, htype⟩

def Declaration.types (declaration : Declaration) : List String :=
  declaration.key.type :: declaration.fields.map (·.type) ++ declaration.forward.map (·.keyType)

def Registry.typedKinds (registry : Registry) (options : Options) (collection : Collection) :
    List String :=
  collection.keyKind :: (collection.lineFields options).map (·.2.kind)
    ++ collection.links.map fun link => registry.keyKindOf link.target

theorem Declaration.types_written (types : String → String) :
    (Declaration.written registry collection options types).types
      = (registry.typedKinds options collection).map types := by
  simp only [Declaration.types, Declaration.written, Registry.typedKinds, List.map_cons,
    List.map_append, List.map_map, List.cons_append]
  rfl

/-- Whether the strategy goes by an entry of the type map that is empty. -/
def TypeMap.Hollow (overrides : Dictionary String) (strategy : KeyStrategy) : Prop :=
  ∃ kind ∈ strategy.kinds, Dictionary.find? kind (TypeMap.merged overrides) = some ""

namespace TypeMap

theorem typeOf_eq_empty_iff (h : kind ∈ strategy.kinds) :
    typeOf overrides kind = "" ↔ Dictionary.find? kind (merged overrides) = some "" := by
  have hdefault : kind ∈ Dictionary.names defaults := by
    revert kind
    cases strategy <;> decide
  obtain ⟨type, htype⟩ := Option.isSome_iff_exists.1 (find?_merged_isSome overrides hdefault)
  simp [typeOf, htype]

theorem empty_mem_kinds_iff :
    "" ∈ strategy.kinds.map (typeOf overrides) ↔ Hollow overrides strategy := by
  rw [List.mem_map, Hollow]
  apply exists_congr
  intro kind
  apply and_congr_right
  intro hkind
  exact typeOf_eq_empty_iff hkind

theorem empty_mem_operands_iff (h : Resolves overrides kind) :
    "" ∈ operands overrides strategy kind
      ↔ kind = FieldKind.generatedKey ∧ Hollow overrides strategy := by
  by_cases hkind : kind = FieldKind.generatedKey
  · subst hkind
    simp only [operands, sources_generated, empty_mem_kinds_iff, true_and]
  · have hgiven := (resolves_declared_iff hkind).1 h
    simp [operands, sources_declared hkind, hkind, hgiven.symm]

theorem typeText_eq_empty_iff (h : Resolves overrides kind) :
    typeText overrides strategy kind = ""
      ↔ kind = FieldKind.generatedKey ∧ Hollow overrides strategy ∧ strategy ≠ .either := by
  by_cases hkind : kind = FieldKind.generatedKey
  · subst hkind
    rw [typeText_generated, ← empty_mem_kinds_iff, List.mem_map]
    cases strategy with
    | text => simp [generatedKeyType, KeyStrategy.kinds, KeyStrategy.name]
    | number => simp [generatedKeyType, KeyStrategy.kinds, KeyStrategy.name]
    | either => simp [generatedKeyType]
  · rw [typeText_declared hkind]
    simp [(resolves_declared_iff hkind).1 h, hkind]

/-- Agreement of a type with the entries that it is made of. -/
structure MadeOf (overrides : Dictionary String) (strategy : KeyStrategy) (kind type : String) :
    Prop where
  text : type = Text.join " | " (operands overrides strategy kind)
  operand : "" ∈ operands overrides strategy kind
    ↔ kind = FieldKind.generatedKey ∧ Hollow overrides strategy
  empty : type = "" ↔ kind = FieldKind.generatedKey ∧ Hollow overrides strategy
    ∧ strategy ≠ .either

theorem madeOf_typeText (h : Resolves overrides kind) :
    MadeOf overrides strategy kind (typeText overrides strategy kind) where
  text := rfl
  operand := empty_mem_operands_iff h
  empty := typeText_eq_empty_iff h

end TypeMap

theorem Declaration.IsOf.resolves
    (h : declaration.IsOf collection options (Batch.keyTypesIn registry options)) :
    ∀ kind ∈ registry.typedKinds options collection, TypeMap.Resolves options.overrides kind := by
  obtain ⟨hkey, hfields, htargets⟩ := Declaration.exists_ofCollection_iff.1
    ⟨declaration, Declaration.ofCollection_eq_ok_iff.2 h⟩
  intro kind hkind
  rw [Registry.typedKinds, List.mem_append, List.mem_cons, List.mem_map, List.mem_map] at hkind
  rcases hkind with (rfl | ⟨entry, hentry, rfl⟩) | ⟨link, hlink, rfl⟩
  · exact (Collection.keyResolves_iff.1 hkey).2.2
  · obtain ⟨hfield, hin⟩ := List.mem_filter.1 hentry
    rcases hfields entry hfield with hout | hresolves
    · simp [hout] at hin
    · exact hresolves
  · obtain ⟨target, hget, hresolves⟩ := Batch.keyTypesIn_resolves_iff.1 (htargets link hlink)
    rw [Registry.keyKindOf, (Registry.get_eq_ok_iff.1 hget).2]
    exact (Collection.keyResolves_iff.1 hresolves).2.2

/-- Which types are empty, where they are looked up and where they are shown. -/
structure TypeMap.EmptyExactly (registry : Registry) (options : Options) : Prop where
  generated : TypeMap.MadeOf options.overrides options.strategy FieldKind.generatedKey
    (TypeMap.generatedKeyType options.overrides options.strategy)
  field : ∀ owner field kind type,
    TypeMap.fieldType options.overrides options.strategy owner field kind = .ok type →
      TypeMap.MadeOf options.overrides options.strategy kind type
  key : ∀ collection type,
    TypeMap.keyType options.overrides options.strategy collection = .ok type →
      TypeMap.MadeOf options.overrides options.strategy collection.keyKind type
  field_refused : ∀ owner field kind, kind ≠ FieldKind.generatedKey →
    TypeMap.typeOf options.overrides kind = "" →
      TypeMap.fieldType options.overrides options.strategy owner field kind
        = .error (.unresolvedKind kind owner field)
  key_refused : ∀ collection field, TypeMap.keyField collection = .ok field →
    collection.keyKind ≠ FieldKind.generatedKey →
    TypeMap.typeOf options.overrides collection.keyKind = "" →
      TypeMap.keyType options.overrides options.strategy collection
        = .error (.unresolvedKind collection.keyKind collection.name field)
  /-- The types of a declaration are those of its key, its fields and its targets. -/
  shown : ∀ batch, (Batch.generate registry options).result = .ok batch →
    List.Forall₂ (fun name declaration => ∃ collection, registry.get name = .ok collection
        ∧ List.Forall₂ (TypeMap.MadeOf options.overrides options.strategy)
          (registry.typedKinds options collection) declaration.types)
      options.collections batch.declarations

/-- Types have an empty operand where a key is generated and the strategy goes by an empty entry, and
nowhere else. -/
theorem types_empty_exact (registry : Registry) (options : Options) :
    TypeMap.EmptyExactly registry options := by
  constructor
  case generated =>
    rw [← TypeMap.typeText_generated]
    exact TypeMap.madeOf_typeText (TypeMap.resolves_generated _)
  case field =>
    intro owner field kind type htype
    obtain ⟨hresolves, rfl⟩ := TypeMap.fieldType_eq_ok_iff.1 htype
    exact TypeMap.madeOf_typeText hresolves
  case key =>
    intro collection type htype
    obtain ⟨hresolves, rfl⟩ := TypeMap.keyType_eq_ok_iff.1 htype
    exact TypeMap.madeOf_typeText (Collection.keyResolves_iff.1 hresolves).2.2
  case field_refused =>
    intro owner field kind hkind hempty
    apply TypeMap.fieldType_of_not_resolves
    rwa [TypeMap.resolves_declared_iff hkind, not_not]
  case key_refused =>
    intro collection field hfield hkind hempty
    apply TypeMap.keyType_of_not_resolves hfield
    rwa [TypeMap.resolves_declared_iff hkind, not_not]
  case shown =>
    intro batch hbatch
    apply (Batch.declarations_of_generate hbatch).imp
    intro name declaration h
    obtain ⟨collection, hget, hof⟩ := h
    refine ⟨collection, hget, ?_⟩
    rw [hof.eq_written, Declaration.types_written, List.forall₂_map_right_iff, List.forall₂_same]
    intro kind hkind
    exact TypeMap.madeOf_typeText (hof.resolves kind hkind)

def bareNotes : Registry :=
  Registry.after [.change (.register "note" (.obj [])), .change .finish]

def hollowOptions : Options :=
  { collections := ["note"], overrides := [("int", "")] }

def hollowBatch : Batch :=
  ⟨[⟨"note", false, ⟨"id", "", true⟩, [], [], []⟩], []⟩

theorem hollowBatch_types_empty :
    TypeMap.generatedKeyType hollowOptions.overrides hollowOptions.strategy = ""
      ∧ TypeMap.fieldType hollowOptions.overrides hollowOptions.strategy "note" "id"
        FieldKind.generatedKey = .ok ""
      ∧ (Batch.generate bareNotes hollowOptions).result = .ok hollowBatch
      ∧ (⟨"id", "", true⟩ : KeyMember).text = "( WithPk extends true ? \x7b id :  \x7d : \x7b\x7d )"
      ∧ ¬∀ overrides strategy owner field kind type,
        TypeMap.fieldType overrides strategy owner field kind = .ok type → type ≠ "" := by
  refine ⟨rfl, rfl, rfl, rfl, ?_⟩
  intro h
  exact h hollowOptions.overrides hollowOptions.strategy "note" "id" FieldKind.generatedKey "" rfl rfl

end StorageTypes
