import StorageTypes.Proofs.Checks
import StorageTypes.Proofs.Definitions

namespace StorageTypes

open Json (Value)

variable {name collection : String} {definition value fallback : Value}

def Json.Value.entry (value : Value) (name : String) : Value :=
  (value.member? name).getD .null

theorem orElse_list (items : List Value) : (Value.arr items).orElse (.arr []) = .arr items := by
  cases items <;> rfl

theorem orElse_object (entries : List (String × Value)) :
    (Value.obj entries).orElse (.obj []) = .obj entries := by
  cases entries <;> rfl

theorem orElse_of_orElse {filled : Value} (h : value.orElse fallback = filled) :
    filled.orElse fallback = filled := by
  simp only [Value.orElse] at h ⊢
  split at h
  · next hgiven => rw [← h, if_pos hgiven]
  · rw [h, ite_self]

theorem isGiven_of_orElse {filled : Value} (h : value.orElse fallback = filled) :
    filled = fallback ∨ filled.isGiven = true := by
  simp only [Value.orElse] at h
  split at h
  · next hgiven => exact .inr (h ▸ hgiven)
  · exact .inl h.symm

/-- A link to a target as a definition describes it. -/
structure ChildOf.Reads (collection : String) (single : Bool) (target definition : Value)
    (link : ChildOf) : Prop where
  named : target = .str link.target
  forwardAlias : (definition.entry "alias").orElse target = .str link.forwardAlias
  reverseAlias :
    (definition.entry "reverseAlias").orElse
      (.str (if single then collection else Text.pluralize collection)) = .str link.reverseAlias
  shown : link.reverseAlias ≠ ""
  fieldName : (definition.entry "fieldName").orElse (.str link.forwardAlias)
    = Json.ofText? link.fieldName
  single : link.single = single
  source : link.source = collection

/-- Values that start with two texts: the first items of a list, or the first characters of a text. -/
inductive StartsWith : Value → String → String → Prop where
  | list (first second : String) (rest : List Value) :
      StartsWith (.arr (.str first :: .str second :: rest)) first second
  | text {content : String} {first second : Char} {rest : List Char}
      (h : content.toList = first :: second :: rest) :
      StartsWith (.str content) (String.singleton first) (String.singleton second)

/-- A relationship as a definition describes it. -/
inductive Relationship.Reads (collection : String) (definition : Value) : Relationship → Prop where
  | single {target : Value} {link : ChildOf}
      (htarget : definition.member? "singleChildOf" = some target)
      (hlink : ChildOf.Reads collection true target definition link) :
      Reads collection definition (.childOf link)
  | several {target : Value} {link : ChildOf}
      (hsingle : definition.member? "singleChildOf" = none)
      (htarget : definition.member? "childOf" = some target)
      (hlink : ChildOf.Reads collection false target definition link) :
      Reads collection definition (.childOf link)
  | between {left right leftAlias rightAlias : String}
      (hsingle : definition.member? "singleChildOf" = none)
      (hseveral : definition.member? "childOf" = none)
      (hends : definition.member? "connects" = some (.arr [.str left, .str right]))
      (haliases : StartsWith ((definition.entry "aliases").orElse (.arr [.str left, .str right]))
        leftAlias rightAlias) :
      Reads collection definition (.connects ⟨left, right, leftAlias, rightAlias, collection⟩)

theorem ChildOf.check_modelOfDefinition_iff {single : Bool} {target : Value} {link : ChildOf} :
    ChildOf.check (ChildOf.modelOfDefinition collection single target definition) = .ok link
      ↔ ChildOf.Reads collection single target definition link := by
  have htag : checkTag ChildOf.tag
      (ChildOf.modelOfDefinition collection single target definition) = .ok () := rfl
  have hforward : (ChildOf.modelOfDefinition collection single target definition).member? "alias"
      = some ((definition.entry "alias").orElse target) := rfl
  have hreverse : (ChildOf.modelOfDefinition collection single target definition).member?
      "reverse_alias" = some ((definition.entry "reverseAlias").orElse
        (.str (if single then collection else Text.pluralize collection))) := rfl
  have hsingle : (ChildOf.modelOfDefinition collection single target definition).member? "single"
      = some (.bool single) := rfl
  have hsource : (ChildOf.modelOfDefinition collection single target definition).member?
      "source_collection" = some (.str collection) := rfl
  have htarget : (ChildOf.modelOfDefinition collection single target definition).member?
      "target_collection" = some target := rfl
  have hfield : (ChildOf.modelOfDefinition collection single target definition).member?
      "field_name" = some ((definition.entry "fieldName").orElse
        ((definition.entry "alias").orElse target)) := rfl
  obtain ⟨entries, hentries⟩ :
      ∃ entries, ChildOf.modelOfDefinition collection single target definition = .obj entries :=
    ⟨_, rfl⟩
  rw [hentries] at htag hforward hreverse hsingle hsource htarget hfield ⊢
  rw [ChildOf.check_eq_ok_iff, Check.required_of_member hforward,
    Check.required_of_member hreverse, Check.optional_of_member hsingle,
    Check.required_of_member hsource, Check.required_of_member htarget,
    Check.optional_of_member hfield, Check.text_eq_ok_iff, Check.nonemptyText_eq_ok_iff,
    Check.text_eq_ok_iff, Check.text_eq_ok_iff, Check.nullable_text_eq_ok_iff]
  constructor
  · intro h
    obtain ⟨-, hforward, ⟨hreverse, hshown⟩, hsingle, hsource, htarget, hfield⟩ := h
    rw [hforward] at hfield
    exact ⟨htarget, hforward, hreverse, hshown, hfield, (Except.ok.inj hsingle).symm,
      (Value.str.inj hsource).symm⟩
  · intro h
    rw [h.forwardAlias]
    exact ⟨htag, rfl, ⟨h.reverseAlias, h.shown⟩, congrArg Except.ok h.single.symm,
      congrArg Value.str h.source.symm, h.named, h.fieldName⟩

theorem startsWith_iff {first second : String} :
    StartsWith value first second
      ↔ itemAt value 0 = .ok (.str first) ∧ itemAt value 1 = .ok (.str second) := by
  constructor
  · intro h
    cases h with
    | list => exact ⟨rfl, rfl⟩
    | text hcontent => simp [itemAt, hcontent]
  · intro h
    obtain ⟨hfirst, hsecond⟩ := h
    cases value with
    | arr items =>
      cases items with
      | nil => cases hfirst
      | cons item rest =>
        cases rest with
        | nil => cases hsecond
        | cons other rest =>
          cases hfirst
          cases hsecond
          exact .list first second rest
    | str content =>
      cases hcontent : content.toList with
      | nil => simp [itemAt, hcontent] at hfirst
      | cons c rest =>
        cases rest with
        | nil => simp [itemAt, hcontent] at hsecond
        | cons d rest =>
          simp only [itemAt, hcontent, List.getElem?_cons_zero, List.getElem?_cons_succ,
            Except.ok.injEq, Value.str.injEq] at hfirst hsecond
          rw [← hfirst, ← hsecond]
          exact .text hcontent
    | _ => cases hfirst

def Connects.modelOfDefinition (collection : String) (left right leftAlias rightAlias : Value) :
    Value :=
  .obj [("connects", .arr [left, right]), ("aliases", .arr [leftAlias, rightAlias]),
    ("source_collection", .str collection)]

theorem Connects.check_modelOfDefinition_iff {left right leftAlias rightAlias : Value}
    {junction : Connects} :
    Connects.check (Connects.modelOfDefinition collection left right leftAlias rightAlias)
        = .ok junction
      ↔ (left = .str junction.left ∧ right = .str junction.right)
        ∧ (leftAlias = .str junction.leftAlias ∧ rightAlias = .str junction.rightAlias)
        ∧ collection = junction.source := by
  have hends : (Connects.modelOfDefinition collection left right leftAlias rightAlias).member?
      "connects" = some (.arr [left, right]) := rfl
  have haliases : (Connects.modelOfDefinition collection left right leftAlias rightAlias).member?
      "aliases" = some (.arr [leftAlias, rightAlias]) := rfl
  have hsource : (Connects.modelOfDefinition collection left right leftAlias rightAlias).member?
      "source_collection" = some (.str collection) := rfl
  have htag : checkTag Connects.tag
      (Connects.modelOfDefinition collection left right leftAlias rightAlias) = .ok () := rfl
  obtain ⟨entries, hentries⟩ : ∃ entries,
      Connects.modelOfDefinition collection left right leftAlias rightAlias = .obj entries :=
    ⟨_, rfl⟩
  rw [hentries] at hends haliases hsource htag ⊢
  rw [Connects.check_eq_ok_iff, Check.required_of_member hends, Check.required_of_member haliases,
    Check.required_of_member hsource, Check.pair_eq_ok_iff, Check.pair_eq_ok_iff,
    Check.text_eq_ok_iff]
  simp [htag]

theorem Relationship.connectsOfDefinition_iff {ends : Value} {relationship : Relationship} :
    Relationship.connectsOfDefinition collection ends definition = .ok relationship
      ↔ ∃ left right leftAlias rightAlias, ends = .arr [.str left, .str right]
        ∧ StartsWith ((definition.entry "aliases").orElse (.arr [.str left, .str right]))
          leftAlias rightAlias
        ∧ relationship = .connects ⟨left, right, leftAlias, rightAlias, collection⟩ := by
  constructor
  · intro h
    simp only [Relationship.connectsOfDefinition] at h
    split at h
    · split at h
      · cases h
      · cases h
      · next first second hfirst hsecond =>
        split at h
        · next junction hcheck =>
          cases h
          obtain ⟨left, right, leftAlias, rightAlias, source⟩ := junction
          obtain ⟨⟨rfl, rfl⟩, ⟨rfl, rfl⟩, rfl⟩ := Connects.check_modelOfDefinition_iff.1 hcheck
          exact ⟨left, right, leftAlias, rightAlias, rfl, startsWith_iff.2 ⟨hfirst, hsecond⟩, rfl⟩
        · cases h
    · cases h
  · intro h
    obtain ⟨left, right, leftAlias, rightAlias, rfl, haliases, rfl⟩ := h
    obtain ⟨hfirst, hsecond⟩ := startsWith_iff.1 haliases
    have hcheck : Connects.check (Connects.modelOfDefinition collection (.str left) (.str right)
        (.str leftAlias) (.str rightAlias))
          = .ok ⟨left, right, leftAlias, rightAlias, collection⟩ :=
      Connects.check_modelOfDefinition_iff.2 ⟨⟨rfl, rfl⟩, ⟨rfl, rfl⟩, rfl⟩
    simp only [Json.Value.entry] at hfirst hsecond
    simp only [Connects.modelOfDefinition] at hcheck
    simp only [Relationship.connectsOfDefinition, hfirst, hsecond, hcheck]

theorem Relationship.reads_iff {relationship : Relationship} :
    Relationship.ofDefinition collection definition = .ok relationship
      ↔ Relationship.Reads collection definition relationship := by
  constructor
  · intro h
    simp only [Relationship.ofDefinition] at h
    split at h
    · next target htarget =>
      split at h
      · next link hcheck =>
        cases h
        exact .single htarget (ChildOf.check_modelOfDefinition_iff.1 hcheck)
      · cases h
    · next target hsingle htarget =>
      split at h
      · next link hcheck =>
        cases h
        exact .several hsingle htarget (ChildOf.check_modelOfDefinition_iff.1 hcheck)
      · cases h
    · next ends hsingle hseveral hends =>
      obtain ⟨left, right, leftAlias, rightAlias, rfl, haliases, rfl⟩ :=
        Relationship.connectsOfDefinition_iff.1 h
      exact .between hsingle hseveral hends haliases
    · cases h
  · intro h
    cases h with
    | single htarget hlink =>
      simp only [Relationship.ofDefinition, htarget, ChildOf.check_modelOfDefinition_iff.2 hlink]
    | several hsingle htarget hlink =>
      simp only [Relationship.ofDefinition, hsingle, htarget,
        ChildOf.check_modelOfDefinition_iff.2 hlink]
    | between hsingle hseveral hends haliases =>
      simp only [Relationship.ofDefinition, hsingle, hseveral, hends]
      exact Relationship.connectsOfDefinition_iff.2 ⟨_, _, _, _, rfl, haliases, rfl⟩

theorem ChildOf.entries_toDefinition (link : ChildOf) :
    (Relationship.childOf link).toDefinition.entry "alias" = .str link.forwardAlias
      ∧ (Relationship.childOf link).toDefinition.entry "reverseAlias" = .str link.reverseAlias
      ∧ (Relationship.childOf link).toDefinition.entry "fieldName"
        = Json.ofText? link.fieldName := by
  simp only [Relationship.toDefinition]
  split <;> exact ⟨rfl, rfl, rfl⟩

theorem Relationship.Reads.toDefinition {relationship : Relationship}
    (h : Relationship.Reads collection definition relationship) :
    Relationship.Reads collection relationship.toDefinition relationship := by
  have hlink {single : Bool} {target : Value} {link : ChildOf}
      (hlink : ChildOf.Reads collection single target definition link) :
      ChildOf.Reads collection single (.str link.target)
        (Relationship.childOf link).toDefinition link := by
    obtain ⟨hforward, hreverse, hfield⟩ := link.entries_toDefinition
    constructor
    case named => rfl
    case forwardAlias =>
      rw [hforward, ← hlink.named]
      exact orElse_of_orElse hlink.forwardAlias
    case reverseAlias =>
      rw [hreverse]
      exact orElse_of_orElse hlink.reverseAlias
    case shown => exact hlink.shown
    case fieldName =>
      rw [hfield]
      exact orElse_of_orElse hlink.fieldName
    case single => exact hlink.single
    case source => exact hlink.source
  cases h with
  | @single target link htarget hreads =>
    refine .single ?_ (hlink hreads)
    simp [Relationship.toDefinition, hreads.single, Value.member?, Dictionary.find?]
  | @several target link hsingle htarget hreads =>
    refine .several ?_ ?_ (hlink hreads)
    · simp [Relationship.toDefinition, hreads.single, Value.member?, Dictionary.find?]
    · simp [Relationship.toDefinition, hreads.single, Value.member?, Dictionary.find?]
  | between hsingle hseveral hends haliases =>
    exact .between rfl rfl rfl (.list _ _ [])

/-- A field as the definition under its name describes it. -/
structure Field.Reads (given : String × Value) (field : String × Field) : Prop where
  named : given.1 = field.1
  kind : given.2.member? "type" = some (.str field.2.kind)
  optional : (given.2.entry "optional").isGiven = field.2.optional

theorem Field.reads_iff {given : String × Value} {field : String × Field} :
    (Field.ofDefinition name given.1 given.2).map (given.1, ·) = .ok field
      ↔ Field.Reads given field := by
  have hoptional : ((given.2.member? "optional").map (·.isGiven)).getD false
      = (given.2.entry "optional").isGiven := by
    rw [Json.Value.entry]
    cases given.2.member? "optional" <;> rfl
  rw [map_eq_ok_iff]
  constructor
  · intro h
    obtain ⟨read, hread, rfl⟩ := h
    simp only [Field.ofDefinition] at hread
    split at hread
    · next kind hkind =>
      cases hread
      exact ⟨rfl, hkind, hoptional.symm⟩
    · cases hread
  · intro h
    refine ⟨field.2, ?_, ?_⟩
    · simp only [Field.ofDefinition, h.kind, hoptional, h.optional]
    · rw [h.named]

theorem Collection.fieldsOfDefinition_iff {fields : Dictionary Field} :
    Collection.fieldsOfDefinition name definition = .ok fields
      ↔ ∃ given, (definition.entry "fields").orElse (.obj []) = .obj given
        ∧ List.Forall₂ Field.Reads given fields := by
  have hentry : ((definition.member? "fields").getD .null).orElse (.obj [])
      = (definition.entry "fields").orElse (.obj []) := rfl
  rw [Collection.fieldsOfDefinition, hentry]
  cases (definition.entry "fields").orElse (.obj []) with
  | obj given => simp [eachOf_eq_ok_iff, Field.reads_iff]
  | _ => simp

theorem Relationship.not_reads_text (text : String) (relationship : Relationship) :
    ¬Relationship.Reads name (.str text) relationship := by
  intro h
  cases h with
  | single htarget => cases htarget
  | several _ htarget => cases htarget
  | between _ _ hends => cases hends

theorem Collection.relationshipsOfDefinition_iff {relationships : List Relationship} :
    Collection.relationshipsOfDefinition name definition = .ok relationships
      ↔ ∃ items, (definition.entry "relationships").orElse (.arr []) = .arr items
        ∧ List.Forall₂ (Relationship.Reads name) items relationships := by
  have hentry : ((definition.member? "relationships").getD .null).orElse (.arr [])
      = (definition.entry "relationships").orElse (.arr []) := rfl
  have htexts (text : String) (rest : List Value) :
      ¬List.Forall₂ (fun item result => Relationship.ofDefinition name item = .ok result)
        (.str text :: rest) relationships := by
    intro h
    cases h with
    | cons hfirst _ => exact Relationship.not_reads_text text _ (Relationship.reads_iff.1 hfirst)
  rw [Collection.relationshipsOfDefinition, hentry]
  cases hgiven : (definition.entry "relationships").orElse (.arr []) with
  | arr items => simp [itemsOf, eachOf_eq_ok_iff, Relationship.reads_iff]
  | obj entries =>
    have hsays := (isGiven_of_orElse hgiven).resolve_left (by simp)
    cases entries with
    | nil => cases hsays
    | cons entry rest => simp [itemsOf, eachOf_eq_ok_iff, htexts]
  | str text =>
    have hsays := (isGiven_of_orElse hgiven).resolve_left (by simp)
    cases hchars : text.toList with
    | nil =>
      rw [String.toList_eq_nil_iff.1 hchars] at hsays
      cases hsays
    | cons c rest => simp [itemsOf, hchars, eachOf_eq_ok_iff, htexts]
  | _ => simp [itemsOf]

/-- The primary key and the fields of a collection with some declared fields, by what is given as its
key. -/
inductive Collection.KeyedBy (declared : Dictionary Field) (value : Value) :
    PrimaryKey → Dictionary Field → Prop where
  | default (hvalue : value = .null) :
      KeyedBy declared value (.single defaultKeyField) (withKeyField declared)
  | given {key : PrimaryKey} (hvalue : value = key.toValue) (hkey : key ≠ .absent) :
      KeyedBy declared value key declared

/-- A collection as the definition under its name describes it. -/
structure Collection.Reads (name : String) (definition : Value) (collection : Collection) : Prop where
  isObject : ∃ entries, definition = .obj entries
  nonempty : name ≠ ""
  named : collection.name = name
  unshown : collection.reverse = []
  version : collection.version = versionOfDefinition (definition.entry "version")
  description : definition.entry "description" = Json.ofText? collection.description
  keyed : ∃ given declared, (definition.entry "fields").orElse (.obj []) = .obj given
    ∧ List.Forall₂ Field.Reads given declared
    ∧ Collection.KeyedBy declared (definition.entry "pkIndex") collection.key collection.fields
  relationships : ∃ items, (definition.entry "relationships").orElse (.arr []) = .arr items
    ∧ List.Forall₂ (Relationship.Reads name) items collection.relationships

theorem Collection.reads_of_ofDefinition {result : Collection}
    (h : Collection.ofDefinition name definition = .ok result) :
    Collection.Reads name definition result := by
  have hdefined := Collection.definedBy_of_ofDefinition h
  simp only [Collection.ofDefinition] at h
  split at h
  · next entries =>
    split at h
    · cases h
    next declared hdeclared =>
    split at h
    · cases h
    next relationships hrelationships =>
    obtain ⟨given, hgiven, hfields⟩ := Collection.fieldsOfDefinition_iff.1 hdeclared
    simp only [mapError_eq_ok_iff, Checked.apply_eq_ok_iff, Except.ok.injEq] at h
    obtain ⟨_, description, ⟨_, key, ⟨_, _, rfl, -, rfl⟩, hkey, rfl⟩, hdescription, rfl⟩ := h
    rw [Checked.within_eq_ok_iff, PrimaryKey.check_eq_ok_iff] at hkey
    rw [Checked.within_eq_ok_iff, Check.nullable_text_eq_ok_iff] at hdescription
    constructor
    case isObject => exact ⟨entries, rfl⟩
    case nonempty => exact hdefined.nonempty
    case named => exact hdefined.named
    case unshown => rfl
    case version => rfl
    case description => exact hdescription
    case relationships => exact Collection.relationshipsOfDefinition_iff.1 hrelationships
    case keyed =>
      refine ⟨given, declared, hgiven, hfields, ?_⟩
      simp only [Json.Value.entry, Value.member?]
      cases hindex : (Dictionary.find? "pkIndex" entries).getD .null
      all_goals simp only [hindex] at hkey ⊢
      case null =>
        have hdefault : key = .single defaultKeyField := by
          cases key <;> cases hkey
          rfl
        rw [hdefault]
        exact .default rfl
      all_goals
        apply Collection.KeyedBy.given hkey.symm
        intro habsent
        rw [habsent] at hkey
        cases hkey
  · cases h

theorem Collection.Reads.ofDefinition_eq {result : Collection}
    (h : Collection.Reads name definition result) :
    Collection.ofDefinition name definition = .ok result := by
  obtain ⟨entries, rfl⟩ := h.isObject
  obtain ⟨given, declared, hgiven, hfields, hkeyed⟩ := h.keyed
  have hdeclared : Collection.fieldsOfDefinition name (.obj entries) = .ok declared :=
    Collection.fieldsOfDefinition_iff.2 ⟨given, hgiven, hfields⟩
  have hrelationships := Collection.relationshipsOfDefinition_iff.2 h.relationships
  have hname : (Check.nonemptyText (.str name)).within (.entry "name") = .ok name :=
    Checked.within_eq_ok_iff.2 (Check.nonemptyText_eq_ok_iff.2 ⟨rfl, h.nonempty⟩)
  have hdescription : (Check.nullable Check.text
      ((Dictionary.find? "description" entries).getD .null)).within (.entry "description")
        = .ok result.description :=
    Checked.within_eq_ok_iff.2 (Check.nullable_text_eq_ok_iff.2 h.description)
  obtain ⟨_, key, fields, relationships, _, _, description⟩ := result
  obtain rfl := h.named
  obtain rfl := h.unshown
  obtain rfl := h.version
  simp only [Collection.ofDefinition, hdeclared, hrelationships, hname, hdescription]
  cases hkeyed with
  | default hvalue =>
    have hindex : (Dictionary.find? "pkIndex" entries).getD .null = .null := hvalue
    simp only [hindex]
    rfl
  | given hvalue hpresent =>
    have hindex : (Dictionary.find? "pkIndex" entries).getD .null = key.toValue := hvalue
    have hread : (PrimaryKey.check key.toValue).within (.entry "pk_index") = .ok key :=
      Checked.within_eq_ok_iff.2 key.check_toValue
    cases key with
    | absent => exact absurd rfl hpresent
    | single field | composite fields =>
      simp only [PrimaryKey.toValue] at hindex hread
      simp only [hindex, hread]
      rfl

/-- A collection is read from a definition exactly if the definition describes it. -/
theorem Collection.reads_iff {result : Collection} :
    Collection.ofDefinition name definition = .ok result
      ↔ Collection.Reads name definition result :=
  ⟨Collection.reads_of_ofDefinition, Collection.Reads.ofDefinition_eq⟩

end StorageTypes
