import Mathlib.Data.List.Forall2
import StorageTypes.Proofs.Results
import StorageTypes.Schema.Definition

namespace StorageTypes

open Json (Value)

variable {α β ε : Type} {name : String} {definition : Value}

theorem eachOf_eq_ok_iff {f : α → Except ε β} {items : List α} {results : List β} :
    eachOf f items = .ok results
      ↔ List.Forall₂ (fun item result => f item = .ok result) items results := by
  induction items generalizing results with
  | nil => simp [eachOf, eq_comm]
  | cons item rest ih =>
    simp only [eachOf, List.forall₂_cons_left_iff]
    cases hitem : f item with
    | error e => simp
    | ok result =>
      rw [map_eq_ok_iff]
      simp [ih, eq_comm]

theorem exists_eachOf_iff {f : α → Except ε β} {items : List α} :
    (∃ results, eachOf f items = .ok results) ↔ ∀ item ∈ items, ∃ result, f item = .ok result := by
  induction items with
  | nil => simp [eachOf]
  | cons item rest ih =>
    rw [List.forall_mem_cons, ← ih]
    simp only [eachOf]
    cases f item with
    | error cause => simp
    | ok result => simp [map_eq_ok_iff]

theorem exists_of_forall₂ {related : α → β → Prop} {items : List α} {others : List β} {item : α}
    (h : List.Forall₂ related items others) (hitem : item ∈ items) :
    ∃ other ∈ others, related item other := by
  induction h with
  | nil => cases hitem
  | @cons first other rest others hfirst _ ih =>
    rcases List.mem_cons.1 hitem with rfl | hmem
    · exact ⟨other, List.mem_cons_self, hfirst⟩
    · obtain ⟨found, hfound, hrelated⟩ := ih hmem
      exact ⟨found, List.mem_cons_of_mem _ hfound, hrelated⟩

theorem exists_of_eachOf {f : α → Except ε β} {items : List α} {results : List β} {result : β}
    (h : eachOf f items = .ok results) (hresult : result ∈ results) :
    ∃ item ∈ items, f item = .ok result :=
  exists_of_forall₂ (eachOf_eq_ok_iff.1 h).flip hresult

theorem mem_of_eachOf {f : α → Except ε β} {items : List α} {results : List β} {item : α}
    {result : β} (h : eachOf f items = .ok results) (hitem : item ∈ items)
    (hresult : f item = .ok result) : result ∈ results := by
  obtain ⟨other, hother, hsame⟩ := exists_of_forall₂ (eachOf_eq_ok_iff.1 h) hitem
  rw [hresult] at hsame
  exact Except.ok.inj hsame ▸ hother

theorem eachOf_eq_error_iff {f : α → Except ε β} {items : List α} {error : ε} :
    eachOf f items = .error error
      ↔ ∃ before item after, items = before ++ item :: after
        ∧ (∀ earlier ∈ before, ∃ result, f earlier = .ok result) ∧ f item = .error error := by
  induction items with
  | nil => simp [eachOf]
  | cons first rest ih =>
    simp only [eachOf]
    constructor
    · intro h
      split at h
      · next hfirst =>
        cases h
        exact ⟨[], first, rest, rfl, fun _ hmem => absurd hmem List.not_mem_nil, hfirst⟩
      · next result hfirst =>
        obtain ⟨before, item, after, rfl, hbefore, hitem⟩ := ih.1 (map_eq_error_iff.1 h)
        refine ⟨first :: before, item, after, rfl, ?_, hitem⟩
        exact List.forall_mem_cons.2 ⟨⟨result, hfirst⟩, hbefore⟩
    · rintro ⟨before, item, after, hitems, hbefore, hitem⟩
      cases before with
      | nil =>
        obtain ⟨rfl, rfl⟩ := List.cons.inj hitems
        rw [hitem]
      | cons earlier others =>
        obtain ⟨rfl, rfl⟩ := List.cons.inj hitems
        obtain ⟨⟨result, hfirst⟩, hothers⟩ := List.forall_mem_cons.1 hbefore
        rw [hfirst]
        exact map_eq_error_iff.2 (ih.2 ⟨others, item, after, rfl, hothers, hitem⟩)

theorem ChildOf.check_eq_ok_iff {entries : List (String × Value)} {link : ChildOf} :
    ChildOf.check (.obj entries) = .ok link
      ↔ checkTag ChildOf.tag (.obj entries) = .ok ()
        ∧ Check.required "alias" Check.text (.obj entries) = .ok link.forwardAlias
        ∧ Check.required "reverse_alias" Check.nonemptyText (.obj entries) = .ok link.reverseAlias
        ∧ Check.optional "single" false Check.flag (.obj entries) = .ok link.single
        ∧ Check.required "source_collection" Check.text (.obj entries) = .ok link.source
        ∧ Check.required "target_collection" Check.text (.obj entries) = .ok link.target
        ∧ Check.optional "field_name" none (Check.nullable Check.text) (.obj entries)
            = .ok link.fieldName := by
  simp only [ChildOf.check, Check.model, Checked.apply_eq_ok_iff, Except.ok.injEq]
  constructor
  · rintro ⟨_, _, ⟨_, _, ⟨_, _, ⟨_, _, ⟨_, _, ⟨_, _, ⟨_, _, rfl, htag, rfl⟩, hforward, rfl⟩, hreverse,
      rfl⟩, hsingle, rfl⟩, hsource, rfl⟩, htarget, rfl⟩, hfield, rfl⟩
    exact ⟨htag, hforward, hreverse, hsingle, hsource, htarget, hfield⟩
  · rintro ⟨htag, hforward, hreverse, hsingle, hsource, htarget, hfield⟩
    exact ⟨_, _, ⟨_, _, ⟨_, _, ⟨_, _, ⟨_, _, ⟨_, _, ⟨_, _, rfl, htag, rfl⟩, hforward, rfl⟩, hreverse,
      rfl⟩, hsingle, rfl⟩, hsource, rfl⟩, htarget, rfl⟩, hfield, rfl⟩

theorem Connects.check_eq_ok_iff {entries : List (String × Value)} {junction : Connects} :
    Connects.check (.obj entries) = .ok junction
      ↔ checkTag Connects.tag (.obj entries) = .ok ()
        ∧ Check.required "connects" Check.pair (.obj entries) = .ok (junction.left, junction.right)
        ∧ Check.required "aliases" Check.pair (.obj entries)
            = .ok (junction.leftAlias, junction.rightAlias)
        ∧ Check.required "source_collection" Check.text (.obj entries) = .ok junction.source := by
  simp only [Connects.check, Check.model, Checked.apply_eq_ok_iff, Except.ok.injEq]
  constructor
  · rintro ⟨_, _, ⟨_, _, ⟨_, _, ⟨_, _, rfl, htag, rfl⟩, hends, rfl⟩, haliases, rfl⟩, hsource, rfl⟩
    exact ⟨htag, hends, haliases, hsource⟩
  · rintro ⟨htag, hends, haliases, hsource⟩
    exact ⟨_, _, ⟨_, _, ⟨_, _, ⟨_, _, rfl, htag, rfl⟩, hends, rfl⟩, haliases, rfl⟩, hsource, rfl⟩

theorem required_text_eq_ok {key : String} {object : Value} {content found : String}
    (hentry : object.member? key = some (.str content))
    (h : Check.required key Check.text object = .ok found) : found = content := by
  simp only [Check.required, hentry, Check.text] at h
  exact (Except.ok.inj (Checked.within_eq_ok_iff.1 h)).symm

theorem Relationship.source_of_ofDefinition {relationship : Relationship}
    (h : Relationship.ofDefinition name definition = .ok relationship) :
    relationship.source = name := by
  have hchildOf {single : Bool} {target : Value} {link : ChildOf}
      (hcheck : ChildOf.check (ChildOf.modelOfDefinition name single target definition) = .ok link) :
      link.source = name :=
    required_text_eq_ok (by simp [Value.member?, Dictionary.find?])
      (ChildOf.check_eq_ok_iff.1 hcheck).2.2.2.2.1
  simp only [Relationship.ofDefinition] at h
  split at h
  · split at h
    · next hcheck => cases h; exact hchildOf hcheck
    · cases h
  · split at h
    · next hcheck => cases h; exact hchildOf hcheck
    · cases h
  · simp only [Relationship.connectsOfDefinition] at h
    split at h
    · split at h
      · cases h
      · cases h
      · split at h
        · next hcheck =>
          cases h
          exact required_text_eq_ok (by simp [Value.member?, Dictionary.find?])
            (Connects.check_eq_ok_iff.1 hcheck).2.2.2
        · cases h
    · cases h
  · cases h

theorem Collection.source_of_relationshipsOfDefinition {relationships : List Relationship}
    (h : Collection.relationshipsOfDefinition name definition = .ok relationships) :
    ∀ relationship ∈ relationships, relationship.source = name := by
  intro relationship hrelationship
  simp only [Collection.relationshipsOfDefinition] at h
  split at h
  · cases h
  · obtain ⟨item, _, hitem⟩ := exists_of_eachOf h hrelationship
    exact Relationship.source_of_ofDefinition hitem

/-- What a collection takes over from its definition. -/
structure Collection.DefinedBy (collection : Collection) (name : String) (definition : Value) :
    Prop where
  named : collection.name = name
  nonempty : name ≠ ""
  unshown : collection.reverse = []
  relationships : Collection.relationshipsOfDefinition name definition = .ok collection.relationships

theorem Collection.definedBy_of_ofDefinition {collection : Collection}
    (h : Collection.ofDefinition name definition = .ok collection) :
    collection.DefinedBy name definition := by
  simp only [Collection.ofDefinition] at h
  split at h
  · split at h
    · cases h
    split at h
    · cases h
    next relationships hrelationships =>
    simp only [mapError_eq_ok_iff, Checked.apply_eq_ok_iff, Except.ok.injEq] at h
    obtain ⟨_, _, ⟨_, _, ⟨_, _, rfl, hname, rfl⟩, hkey, rfl⟩, hdescription, rfl⟩ := h
    simp only [Checked.within_eq_ok_iff, Check.nonemptyText] at hname
    split at hname
    · cases hname
    next hnonempty =>
    cases hname
    exact ⟨rfl, hnonempty, rfl, hrelationships⟩
  · cases h

end StorageTypes
