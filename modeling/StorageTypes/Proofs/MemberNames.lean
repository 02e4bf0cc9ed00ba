import StorageTypes.Proofs.Completion
import StorageTypes.Proofs.Rearrangement
import StorageTypes.Proofs.TypeTexts

namespace StorageTypes

open Json (Value)

variable {registry : Registry} {options : Options} {name member : String} {collection : Collection}
  {declaration : Declaration} {keyTypes : KeyTypes} {definition : Value}
  {entries : List (String × Value)}

/-- Definitions whose fields, if they are an object, hold every name once, as objects do. -/
def FieldsDistinct (definition : Value) : Prop :=
  ∀ given, definition.member? "fields" = some (.obj given) → (Dictionary.names given).Nodup

namespace Declaration

def lineNames (declaration : Declaration) : List String :=
  declaration.key.field :: declaration.fields.map (·.name)

def forwardNames (declaration : Declaration) : List String :=
  declaration.forward.map (·.forwardAlias)

def reverseNames (declaration : Declaration) : List String :=
  declaration.reverse.map (·.reverseAlias)

def memberNames (declaration : Declaration) : List String :=
  declaration.lineNames ++ declaration.forwardNames ++ declaration.reverseNames

end Declaration

/-- Names of the key, or of a field that neither a relationship covers nor the options skip. -/
def Collection.HasLine (collection : Collection) (options : Options) (member : String) : Prop :=
  collection.key = .single member
    ∨ ∃ field, (member, field) ∈ collection.fields ∧ field.kind ≠ FieldKind.foreignKey
      ∧ field.kind ∉ options.skipped

def Declares (relationships : List (String × Relationship)) (name member : String) : Prop :=
  ∃ link, (name, link) ∈ linksAmong relationships ∧ link.forwardAlias = member

def PointsAt (relationships : List (String × Relationship)) (name member : String) : Prop :=
  ∃ source link, (source, link) ∈ linksAmong relationships ∧ link.target = name
    ∧ link.reverseAlias = member

/-- Names that a schema gives to members of a collection from two of the three sources. -/
def Collection.Clash (collection : Collection) (options : Options)
    (relationships : List (String × Relationship)) (member : String) : Prop :=
  collection.HasLine options member ∧ Declares relationships collection.name member
    ∨ collection.HasLine options member ∧ PointsAt relationships collection.name member
    ∨ Declares relationships collection.name member ∧ PointsAt relationships collection.name member

/-- Agreement of the names of members with the sources that they come from. -/
structure Declaration.NamesApart (declaration : Declaration) (collection : Collection)
    (options : Options) (relationships : List (String × Relationship)) : Prop where
  lines : declaration.lineNames.Nodup
  forward : declaration.forwardNames.Nodup
  reverse : declaration.reverseNames.Nodup
  /-- A name comes twice exactly if it clashes. -/
  repeated : ∀ member, 1 < declaration.memberNames.count member
    ↔ collection.Clash options relationships member
  apart : declaration.memberNames.Nodup ↔ ∀ member, ¬collection.Clash options relationships member

theorem names_given_nodup {given : List (String × Value)} (hfields : FieldsDistinct definition)
    (h : (definition.entry "fields").orElse (.obj []) = .obj given) :
    (Dictionary.names given).Nodup := by
  simp only [Value.orElse] at h
  split at h
  · rw [Value.entry] at h
    cases hmember : definition.member? "fields" with
    | none =>
      rw [hmember] at h
      cases h
    | some value =>
      rw [hmember] at h
      obtain rfl : value = .obj given := h
      exact hfields given hmember
  · obtain rfl := Value.obj.inj h
    exact List.nodup_nil

theorem Collection.Reads.names_nodup (h : Collection.Reads name definition collection)
    (hfields : FieldsDistinct definition) : (Dictionary.names collection.fields).Nodup := by
  obtain ⟨given, declared, hgiven, hread, hkeyed⟩ := h.keyed
  have hdeclared : (Dictionary.names declared).Nodup := by
    rw [names_of_reads hread]
    exact names_given_nodup hfields hgiven
  generalize collection.key = key at hkeyed
  generalize collection.fields = fields at hkeyed ⊢
  cases hkeyed with
  | default =>
    rw [Collection.names_withKeyField]
    split
    · exact hdeclared
    · next hnew => exact List.nodup_cons.2 ⟨hnew, hdeclared⟩
  | given => exact hdeclared

theorem mem_accepted {entry : String × Collection} (h : entry ∈ accepted entries) :
    ∃ definition, (entry.1, definition) ∈ entries
      ∧ Collection.ofDefinition entry.1 definition = .ok entry.2 := by
  induction entries with
  | nil => cases h
  | cons first rest ih =>
    obtain ⟨name, definition⟩ := first
    simp only [accepted] at h
    split at h
    · cases h
    · next collection hread =>
      rcases List.mem_cons.1 h with rfl | hrest
      · exact ⟨definition, List.mem_cons_self, hread⟩
      · obtain ⟨later, hlater, hof⟩ := ih hrest
        exact ⟨later, List.mem_cons_of_mem _ hlater, hof⟩

theorem exists_definition (h : (Registry.ofDefinitions (.obj entries)).result = .ok registry)
    (hfind : Dictionary.find? name registry.collections = some collection) :
    ∃ definition read, (name, definition) ∈ entries
      ∧ Collection.ofDefinition name definition = .ok read ∧ read.fields = collection.fields := by
  obtain ⟨read, hread, hwithout⟩ := (stored_of_ofDefinitions h).exists_find? hfind
  have hlast : Dictionary.find? name (accepted entries).reverse = some read :=
    (Dictionary.find?_ofList _ _).symm.trans hread
  have hmem := List.mem_reverse.1 (Dictionary.mem_of_find? hlast)
  obtain ⟨definition, hentry, hof⟩ := mem_accepted hmem
  have hfields : read.withoutReverse.fields = collection.withoutReverse.fields :=
    congrArg Collection.fields hwithout
  exact ⟨definition, read, hentry, hof, hfields⟩

namespace Declaration.IsOf

variable (h : declaration.IsOf collection options keyTypes)

include h

theorem key_eq : collection.key = .single declaration.key.field :=
  (TypeMap.keyField_eq_ok_iff.1 (KeyMember.ofCollection_eq_ok_iff.1 h.key).1).1

theorem fieldNames : declaration.fields.map (·.name)
    = Dictionary.names (collection.lineFields options) := by
  rw [FieldMember.ofFields_eq_written h.fields, List.map_map]
  rfl

theorem mem_lineNames_iff : member ∈ declaration.lineNames ↔ collection.HasLine options member := by
  have hkey : member = declaration.key.field ↔ collection.key = .single member := by
    rw [h.key_eq, PrimaryKey.single.injEq, eq_comm]
  have hfield : member ∈ Dictionary.names (collection.lineFields options)
      ↔ ∃ field, (member, field) ∈ collection.fields
        ∧ leavesOut collection options member field = false := by
    simp [Dictionary.names, Collection.lineFields]
  rw [Declaration.lineNames, List.mem_cons, h.fieldNames, hkey, hfield, Collection.HasLine]
  simp only [← Bool.not_eq_true, leavesOut_iff]
  grind

theorem lineNames_nodup (hdistinct : (Dictionary.names collection.fields).Nodup) :
    declaration.lineNames.Nodup := by
  rw [Declaration.lineNames, h.fieldNames, List.nodup_cons]
  have hkept : (collection.lineFields options).Sublist collection.fields := List.filter_sublist
  refine ⟨?_, hdistinct.sublist (hkept.map _)⟩
  intro hmem
  obtain ⟨entry, hentry, hname⟩ := List.mem_map.1 hmem
  have hout := (List.mem_filter.1 hentry).2
  simp [leavesOut, hname, h.key_eq] at hout

end Declaration.IsOf

theorem mem_linksAmong_iff {relationships : List (String × Relationship)} {link : ChildOf} :
    (name, link) ∈ linksAmong relationships ↔ (name, .childOf link) ∈ relationships := by
  simp only [linksAmong, List.mem_filterMap, Option.map_eq_some_iff,
    Relationship.childOf?_eq_some_iff]
  grind

theorem eq_of_mem_backlinks {relationship : Relationship} {backlink : Backlink} {link : ChildOf}
    (hmem : backlink ∈ relationship.backlinks) (h : backlink.relationship = .childOf link) :
    relationship = .childOf link ∧ backlink = ⟨link.target, link.reverseAlias, .childOf link⟩ := by
  cases relationship with
  | childOf own =>
    obtain rfl := List.mem_singleton.1 hmem
    obtain rfl := Relationship.childOf.inj h
    exact ⟨rfl, rfl⟩
  | connects junction =>
    have hown : backlink.relationship = .connects junction := by
      rcases List.mem_cons.1 hmem with rfl | hlast
      · rfl
      · rw [List.mem_singleton.1 hlast]
    rw [hown] at h
    cases h

section

variable (h : registry.Loaded)
  (hfind : Dictionary.find? name registry.collections = some collection)

include h hfind

theorem mem_links_iff_declared {link : ChildOf} :
    link ∈ collection.links ↔ (name, link) ∈ linksAmong registry.declared := by
  rw [linksAmong_declared]
  simp only [List.mem_flatMap, List.mem_map]
  constructor
  · intro hlink
    exact ⟨_, Dictionary.mem_of_find? hfind, link, hlink, rfl⟩
  · intro hlink
    obtain ⟨entry, hentry, own, hown, hpair⟩ := hlink
    obtain ⟨rfl, rfl⟩ := Prod.mk.inj hpair
    have hstored := Dictionary.find?_of_mem h.consistent.distinct hentry
    obtain rfl := Option.some.inj (hfind.symm.trans hstored)
    exact hown

theorem mem_reverseLinks_iff_declared {reverseAlias : String} {link : ChildOf} :
    (reverseAlias, link) ∈ collection.reverseLinks
      ↔ link.target = name ∧ link.reverseAlias = reverseAlias
        ∧ ∃ source, (source, link) ∈ linksAmong registry.declared := by
  rw [Collection.mem_reverseLinks_iff, h.consistent.shown h.initialized name collection hfind,
    ← reverseOf_eq_scan, reverseOf, backlinksOf_values, shownBy]
  simp only [List.mem_map, List.mem_filter, List.mem_flatMap, decide_eq_true_eq,
    mem_linksAmong_iff, Prod.mk.injEq]
  constructor
  · intro hshown
    obtain ⟨backlink, ⟨⟨entry, hentry, hbacklink⟩, htarget⟩, halias, hrelationship⟩ := hshown
    obtain ⟨hlink, hend⟩ := eq_of_mem_backlinks hbacklink hrelationship
    rw [hend] at htarget halias
    exact ⟨htarget, halias, entry.1, hlink ▸ hentry⟩
  · intro hdeclared
    obtain ⟨htarget, halias, source, hentry⟩ := hdeclared
    exact ⟨⟨link.target, link.reverseAlias, .childOf link⟩,
      ⟨⟨_, hentry, List.mem_singleton.2 rfl⟩, htarget⟩, halias, rfl⟩

end

section

variable (hof : declaration.IsOf collection options keyTypes) (h : registry.Loaded)
  (hfind : Dictionary.find? name registry.collections = some collection)

include hof h hfind

theorem mem_forwardNames_iff :
    member ∈ declaration.forwardNames ↔ Declares registry.declared name member := by
  rw [Declaration.forwardNames, hof.forwardAliases, List.mem_map, Declares]
  simp only [mem_links_iff_declared h hfind]

theorem mem_reverseNames_iff :
    member ∈ declaration.reverseNames ↔ PointsAt registry.declared name member := by
  rw [Declaration.reverseNames, hof.reverseAliases, List.mem_map, PointsAt]
  simp only [Prod.exists, mem_reverseLinks_iff_declared h hfind]
  grind

end

theorem one_lt_count_iff {first second third : List String} (hfirst : first.Nodup)
    (hsecond : second.Nodup) (hthird : third.Nodup) :
    1 < (first ++ second ++ third).count member
      ↔ member ∈ first ∧ member ∈ second ∨ member ∈ first ∧ member ∈ third
        ∨ member ∈ second ∧ member ∈ third := by
  rw [List.count_append, List.count_append, hfirst.count, hsecond.count, hthird.count]
  by_cases hone : member ∈ first <;> by_cases htwo : member ∈ second <;>
    by_cases hthree : member ∈ third <;> simp [hone, htwo, hthree]

/-- In a declaration no name comes twice from one source, and it comes from two sources exactly if the
schema gives it to both. -/
theorem members_apart (hfields : ∀ entry ∈ entries, FieldsDistinct entry.2)
    (hregistry : (Registry.ofDefinitions (.obj entries)).result = .ok registry)
    (hdeclared : (Batch.declare registry options name).result = .ok declaration) :
    ∃ collection, registry.get name = .ok collection
      ∧ declaration.NamesApart collection options (declaredIn (.obj entries)) := by
  obtain ⟨collection, hget, hof⟩ := Batch.declare_eq_ok_iff.1 hdeclared
  have hloaded := loaded_of_ofDefinitions hregistry
  have hfind := (Registry.get_eq_ok_iff.1 hget).2
  have hnamed := hloaded.consistent.named name collection hfind
  obtain ⟨definition, read, hentry, hread, hsame⟩ := exists_definition hregistry hfind
  have hnames := (Collection.reads_iff.1 hread).names_nodup (hfields _ hentry)
  rw [hsame] at hnames
  have hlines := hof.lineNames_nodup hnames
  obtain ⟨hforward, hreverse⟩ : declaration.forwardNames.Nodup ∧ declaration.reverseNames.Nodup :=
    hof.aliases_nodup hloaded hfind
  have hrepeated : ∀ member, 1 < declaration.memberNames.count member
      ↔ collection.Clash options (declaredIn (.obj entries)) member := by
    intro member
    rw [Declaration.memberNames, one_lt_count_iff hlines hforward hreverse, hof.mem_lineNames_iff,
      mem_forwardNames_iff hof hloaded hfind, mem_reverseNames_iff hof hloaded hfind,
      declared_of_ofDefinitions hregistry, Collection.Clash, hnamed]
  refine ⟨collection, hget, hlines, hforward, hreverse, hrepeated, ?_⟩
  simp only [List.nodup_iff_count_le_one, ← hrepeated, Nat.not_lt]

/-- Books on shelves: the alias of a shelf has the name of the field that it covers. -/
def sequelEntries : List (String × Value) :=
  [("shelf", .obj []),
    ("book", .obj [("fields", .obj [("title", .obj [("type", .str "string")]),
        ("shelf", .obj [("type", .str "foreign-key")])]),
      ("relationships", .arr [.obj [("childOf", .str "shelf")],
        .obj [("childOf", .str "book"), ("alias", .str "after"), ("reverseAlias", .str "before")]])])]

def sequelRegistry : Registry :=
  (Registry.empty.registerEach sequelEntries).1.finish.1

def sequelOptions : Options := { collections := ["book"] }

def sequelDeclaration : Declaration :=
  ⟨"book", true, ⟨"id", "number", true⟩, [⟨"title", false, "string"⟩],
    [⟨"shelf", "shelf", "number"⟩, ⟨"after", "book", "number"⟩], [⟨"before", "book", false⟩]⟩

theorem fieldsDistinct_empty : FieldsDistinct (.obj []) := by
  intro given hgiven
  cases hgiven

theorem fieldsDistinct_of_member {given : List (String × Value)}
    (h : definition.member? "fields" = some (.obj given))
    (hdistinct : (Dictionary.names given).Nodup) : FieldsDistinct definition := by
  intro other hother
  cases h.symm.trans hother
  exact hdistinct

theorem sequel_members_apart :
    (∀ entry ∈ sequelEntries, FieldsDistinct entry.2)
      ∧ (Registry.ofDefinitions (.obj sequelEntries)).result = .ok sequelRegistry
      ∧ (Batch.declare sequelRegistry sequelOptions "book").result = .ok sequelDeclaration
      ∧ sequelDeclaration.memberNames = ["id", "title", "shelf", "after", "before"]
      ∧ ∃ collection, sequelRegistry.get "book" = .ok collection
        ∧ ∀ member, ¬collection.Clash sequelOptions (declaredIn (.obj sequelEntries)) member := by
  have hfields : ∀ entry ∈ sequelEntries, FieldsDistinct entry.2 := by
    rw [sequelEntries, List.forall_mem_cons, List.forall_mem_singleton]
    exact ⟨fieldsDistinct_empty, fieldsDistinct_of_member rfl (by decide)⟩
  have hloaded : (Registry.ofDefinitions (.obj sequelEntries)).result = .ok sequelRegistry := rfl
  have hmade : (Batch.declare sequelRegistry sequelOptions "book").result
      = .ok sequelDeclaration := rfl
  have hnames : sequelDeclaration.memberNames = ["id", "title", "shelf", "after", "before"] := rfl
  obtain ⟨collection, hget, hapart⟩ := members_apart hfields hloaded hmade
  have hdistinct : sequelDeclaration.memberNames.Nodup := by
    rw [hnames]
    decide
  exact ⟨hfields, hloaded, hmade, hnames, collection, hget, hapart.apart.1 hdistinct⟩

def sharedEntries : List (String × Value) :=
  [("list", .obj []),
    ("note", .obj [("fields", .obj [("list", .obj [("type", .str "string")])]),
      ("relationships", .arr [.obj [("childOf", .str "list")]])])]

def sharedRegistry : Registry :=
  (Registry.empty.registerEach sharedEntries).1.finish.1

def sharedOptions : Options := { collections := ["note"] }

def sharedDeclaration : Declaration :=
  ⟨"note", true, ⟨"id", "number", true⟩, [⟨"list", false, "string"⟩],
    [⟨"list", "list", "number"⟩], []⟩

theorem shared_member_repeated :
    (∀ entry ∈ sharedEntries, FieldsDistinct entry.2)
      ∧ (Registry.ofDefinitions (.obj sharedEntries)).result = .ok sharedRegistry
      ∧ (Batch.declare sharedRegistry sharedOptions "note").result = .ok sharedDeclaration
      ∧ sharedDeclaration.memberNames = ["id", "list", "list"]
      ∧ ¬sharedDeclaration.memberNames.Nodup := by
  have hfields : ∀ entry ∈ sharedEntries, FieldsDistinct entry.2 := by
    rw [sharedEntries, List.forall_mem_cons, List.forall_mem_singleton]
    exact ⟨fieldsDistinct_empty, fieldsDistinct_of_member rfl (by decide)⟩
  have hnames : sharedDeclaration.memberNames = ["id", "list", "list"] := rfl
  have htwice : ¬sharedDeclaration.memberNames.Nodup := by
    rw [hnames]
    decide
  exact ⟨hfields, rfl, rfl, hnames, htwice⟩

end StorageTypes
