import Mathlib.Data.List.Forall2
import StorageTypes.Generation.Declaration
import StorageTypes.Proofs.Results

namespace StorageTypes

variable {α β : Type} {name : String} {keyTypes : KeyTypes} {options : Options}
  {collection : Collection} {declaration : Declaration}

def Relationship.childOf? : Relationship → Option ChildOf
  | .childOf link => some link
  | .connects _ => none

def Collection.links (collection : Collection) : List ChildOf :=
  collection.relationships.filterMap (·.childOf?)

def Collection.reverseLinks (collection : Collection) : List (String × ChildOf) :=
  collection.reverse.filterMap fun entry => entry.2.childOf?.map fun link => (entry.1, link)

theorem Relationship.childOf?_eq_some_iff {relationship : Relationship} {link : ChildOf} :
    relationship.childOf? = some link ↔ relationship = .childOf link := by
  cases relationship <;> simp [Relationship.childOf?]

theorem Collection.mem_links_iff {link : ChildOf} :
    link ∈ collection.links ↔ .childOf link ∈ collection.relationships := by
  simp [Collection.links, Relationship.childOf?_eq_some_iff]

theorem Collection.mem_reverseLinks_iff {reverseAlias : String} {link : ChildOf} :
    (reverseAlias, link) ∈ collection.reverseLinks
      ↔ (reverseAlias, .childOf link) ∈ collection.reverse := by
  simp only [Collection.reverseLinks, List.mem_filterMap, Option.map_eq_some_iff,
    Relationship.childOf?_eq_some_iff]
  constructor
  · rintro ⟨⟨_, _⟩, hentry, _, rfl, hsame⟩
    cases hsame
    exact hentry
  · intro hentry
    exact ⟨_, hentry, link, rfl, rfl⟩

def ReverseMember.ofLink (entry : String × ChildOf) : ReverseMember :=
  ⟨entry.1, entry.2.source, entry.2.single⟩

theorem KeyMember.ofCollection_eq_ok_iff {member : KeyMember} :
    KeyMember.ofCollection collection options = .ok member
      ↔ TypeMap.keyField collection = .ok member.field
        ∧ TypeMap.keyType options.overrides options.strategy collection = .ok member.type
        ∧ member.optional = options.optionalKey := by
  simp only [KeyMember.ofCollection]
  cases TypeMap.keyField collection with
  | error e => simp
  | ok field =>
    rw [map_eq_ok_iff]
    constructor
    · rintro ⟨type, htype, rfl⟩
      exact ⟨rfl, htype, rfl⟩
    · rintro ⟨hfield, htype, hoptional⟩
      refine ⟨member.type, htype, ?_⟩
      rw [Except.ok.inj hfield, ← hoptional]

/-- Whether a member is the one for a relationship that the collection declares. -/
structure ForwardMember.IsFor (keyTypes : KeyTypes) (link : ChildOf) (member : ForwardMember) :
    Prop where
  forwardAlias : member.forwardAlias = link.forwardAlias
  target : member.target = link.target
  keyType : keyTypes link.target = .ok member.keyType

theorem ForwardMember.ofRelationship_childOf {link : ChildOf} {found : Option ForwardMember} :
    (ForwardMember.ofRelationship name keyTypes (.childOf link)).result = .ok found
      ↔ ∃ member, found = some member ∧ member.IsFor keyTypes link := by
  simp only [ForwardMember.ofRelationship, Logged.ofExcept_result, map_eq_ok_iff]
  constructor
  · rintro ⟨type, htype, rfl⟩
    exact ⟨_, rfl, rfl, rfl, htype⟩
  · rintro ⟨⟨forwardAlias, target, type⟩, rfl, hmember⟩
    obtain ⟨rfl, rfl, htype⟩ := hmember
    exact ⟨type, htype, rfl⟩

theorem membersOf_cons {member : α → Logged SchemaError (Option β)} {entry : α} {rest : List α}
    {members : List β} :
    (membersOf member (entry :: rest)).result = .ok members
      ↔ ∃ found others, (member entry).result = .ok found
        ∧ (membersOf member rest).result = .ok others ∧ members = found.toList ++ others := by
  simp only [membersOf, Logged.bind_eq_ok_iff, Logged.map_eq_ok_iff]
  constructor
  · rintro ⟨found, hfound, others, hothers, rfl⟩
    exact ⟨found, others, hfound, hothers, rfl⟩
  · rintro ⟨found, others, hfound, hothers, rfl⟩
    exact ⟨found, hfound, others, hothers, rfl⟩

theorem log_membersOf {member : α → Logged SchemaError (Option β)} {entries : List α}
    {members : List β} (h : (membersOf member entries).result = .ok members) :
    (membersOf member entries).log = entries.flatMap fun entry => (member entry).log := by
  induction entries generalizing members with
  | nil => rfl
  | cons entry rest ih =>
    obtain ⟨found, others, hfound, hothers, -⟩ := membersOf_cons.1 h
    rw [membersOf, Logged.log_bind hfound, List.flatMap_cons, ← ih hothers]
    rfl

theorem forwardMembers_eq_ok_iff {relationships : List Relationship}
    {members : List ForwardMember} :
    (membersOf (ForwardMember.ofRelationship name keyTypes) relationships).result = .ok members
      ↔ List.Forall₂ (fun link member => ForwardMember.IsFor keyTypes link member)
          (relationships.filterMap (·.childOf?)) members := by
  induction relationships generalizing members with
  | nil => simp [membersOf, Logged.pure, eq_comm]
  | cons relationship rest ih =>
    rw [membersOf_cons]
    cases relationship with
    | childOf link =>
      simp only [ForwardMember.ofRelationship_childOf, ih, List.filterMap_cons,
        Relationship.childOf?, List.forall₂_cons_left_iff]
      constructor
      · rintro ⟨_, others, ⟨member, rfl, hmember⟩, hothers, rfl⟩
        exact ⟨member, others, hmember, hothers, rfl⟩
      · rintro ⟨member, others, hmember, hothers, rfl⟩
        exact ⟨_, others, ⟨member, rfl, hmember⟩, hothers, rfl⟩
    | connects junction =>
      simp only [ForwardMember.ofRelationship, ih, List.filterMap_cons, Relationship.childOf?]
      constructor
      · rintro ⟨_, others, hnone, hothers, rfl⟩
        cases hnone
        exact hothers
      · intro hothers
        exact ⟨none, members, rfl, hothers, rfl⟩

theorem ReverseMember.ofRelationship_result (reverseAlias : String) (relationship : Relationship) :
    (ReverseMember.ofRelationship name reverseAlias relationship).result
      = .ok (relationship.childOf?.map fun link => ReverseMember.ofLink (reverseAlias, link)) := by
  cases relationship <;> rfl

theorem membersOf_result {member : α → Logged SchemaError (Option β)} {f : α → Option β}
    (h : ∀ entry, (member entry).result = .ok (f entry)) (entries : List α) :
    (membersOf member entries).result = .ok (entries.filterMap f) := by
  induction entries with
  | nil => rfl
  | cons entry rest ih =>
    refine membersOf_cons.2 ⟨f entry, rest.filterMap f, h entry, ih, ?_⟩
    rw [List.filterMap_cons]
    cases f entry <;> rfl

theorem reverseMembers_result (name : String) (collection : Collection) :
    (membersOf (fun entry => ReverseMember.ofRelationship name entry.1 entry.2)
        collection.reverse).result
      = .ok (collection.reverseLinks.map ReverseMember.ofLink) := by
  have hentry (entry : String × Relationship) :
      (ReverseMember.ofRelationship name entry.1 entry.2).result
        = .ok (entry.2.childOf?.map fun link => ReverseMember.ofLink (entry.1, link)) :=
    ReverseMember.ofRelationship_result entry.1 entry.2
  rw [membersOf_result hentry, Collection.reverseLinks, List.map_filterMap]
  simp only [Option.map_map, Function.comp_def]

theorem map_eq_of_forall₂ {γ : Type} {related : α → β → Prop} {f : α → γ} {g : β → γ}
    {items : List α} {others : List β} (h : List.Forall₂ related items others)
    (hrelated : ∀ item other, related item other → g other = f item) :
    others.map g = items.map f := by
  induction h with
  | nil => rfl
  | cons hfirst _ ih => rw [List.map_cons, List.map_cons, hrelated _ _ hfirst, ih]

/-- What the members of a declaration come from. -/
structure Declaration.IsOf (declaration : Declaration) (collection : Collection)
    (options : Options) (keyTypes : KeyTypes) : Prop where
  named : declaration.collection = collection.name
  hasRelationships : declaration.hasRelationships = collection.hasRelationships
  key : KeyMember.ofCollection collection options = .ok declaration.key
  fields : FieldMember.ofFields collection options collection.fields = .ok declaration.fields
  forward : List.Forall₂ (fun link member => ForwardMember.IsFor keyTypes link member)
    collection.links declaration.forward
  reverse : declaration.reverse = collection.reverseLinks.map ReverseMember.ofLink

theorem Declaration.ofCollection_eq_ok_iff :
    (Declaration.ofCollection collection options keyTypes).result = .ok declaration
      ↔ declaration.IsOf collection options keyTypes := by
  simp only [Declaration.ofCollection, Logged.bind_eq_ok_iff, Logged.ofExcept_result,
    forwardMembers_eq_ok_iff, Logged.map_eq_ok_iff, reverseMembers_result, Except.ok.injEq]
  constructor
  · rintro ⟨key, hkey, fields, hfields, forward, hforward, reverse, rfl, rfl⟩
    exact ⟨rfl, rfl, hkey, hfields, hforward, rfl⟩
  · rintro ⟨hnamed, hrelationships, hkey, hfields, hforward, hreverse⟩
    obtain ⟨_, _, key, fields, forward, reverse⟩ := declaration
    obtain rfl := hnamed
    obtain rfl := hrelationships
    exact ⟨key, hkey, fields, hfields, forward, hforward, reverse, hreverse.symm, rfl⟩

theorem Declaration.log_ofCollection
    (h : (Declaration.ofCollection collection options keyTypes).result = .ok declaration) :
    (Declaration.ofCollection collection options keyTypes).log
      = (collection.relationships.flatMap fun relationship =>
          (ForwardMember.ofRelationship collection.name keyTypes relationship).log)
        ++ collection.reverse.flatMap fun entry =>
          (ReverseMember.ofRelationship collection.name entry.1 entry.2).log := by
  obtain ⟨key, hkey, hrest⟩ := Logged.bind_eq_ok_iff.1 h
  obtain ⟨fields, hfields, hmembers⟩ := Logged.bind_eq_ok_iff.1 hrest
  obtain ⟨forward, hforward, -⟩ := Logged.bind_eq_ok_iff.1 hmembers
  rw [Declaration.ofCollection, Logged.log_bind hkey, Logged.log_bind hfields,
    Logged.log_bind hforward, log_membersOf hforward,
    ← log_membersOf (reverseMembers_result collection.name collection)]
  rfl

namespace Declaration.IsOf

variable (h : declaration.IsOf collection options keyTypes)

include h

theorem forwardAliases :
    declaration.forward.map (·.forwardAlias) = collection.links.map (·.forwardAlias) :=
  map_eq_of_forall₂ h.forward fun _ _ hmember => hmember.forwardAlias

theorem targets : declaration.forward.map (·.target) = collection.links.map (·.target) :=
  map_eq_of_forall₂ h.forward fun _ _ hmember => hmember.target

theorem reverseAliases :
    declaration.reverse.map (·.reverseAlias) = collection.reverseLinks.map (·.1) := by
  rw [h.reverse, List.map_map]
  rfl

theorem sources :
    declaration.reverse.map (·.source) = collection.reverseLinks.map (·.2.source) := by
  rw [h.reverse, List.map_map]
  rfl

end Declaration.IsOf

end StorageTypes
