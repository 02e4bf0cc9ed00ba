import StorageTypes.Generation.Import

namespace StorageTypes

variable {α β : Type} {seen other names : List String} {name : String}

theorem mem_firstsBeyond : name ∈ firstsBeyond seen names ↔ name ∈ names ∧ name ∉ seen := by
  induction names generalizing seen with
  | nil => simp [firstsBeyond]
  | cons first rest ih =>
    by_cases h : first ∈ seen
    · simp only [firstsBeyond, if_pos h, ih, List.mem_cons]
      grind
    · simp only [firstsBeyond, if_neg h, ih, List.mem_cons]
      grind

theorem mem_firsts : name ∈ firsts names ↔ name ∈ names := by
  simp [firsts, mem_firstsBeyond]

theorem nodup_firstsBeyond (seen names : List String) : (firstsBeyond seen names).Nodup := by
  induction names generalizing seen with
  | nil => exact List.nodup_nil
  | cons first rest ih =>
    by_cases h : first ∈ seen
    · simpa only [firstsBeyond, if_pos h] using ih seen
    · simp only [firstsBeyond, if_neg h, List.nodup_cons]
      refine ⟨fun hmem => ?_, ih _⟩
      exact (mem_firstsBeyond.1 hmem).2 List.mem_cons_self

theorem nodup_firsts (names : List String) : (firsts names).Nodup :=
  nodup_firstsBeyond [] names

theorem firstsBeyond_congr (h : ∀ name, name ∈ seen ↔ name ∈ other) :
    firstsBeyond seen names = firstsBeyond other names := by
  induction names generalizing seen other with
  | nil => rfl
  | cons first rest ih =>
    simp only [firstsBeyond, h first]
    split
    · exact ih h
    · have hcons : ∀ name, name ∈ first :: seen ↔ name ∈ first :: other := fun name => by
        simp only [List.mem_cons, h name]
      rw [ih hcons]

namespace Dictionary

variable {entries others changes : Dictionary α} {value : α}

theorem names_nil : Dictionary.names ([] : Dictionary α) = [] := rfl

theorem names_cons (entry : String × α) (entries : Dictionary α) :
    Dictionary.names (entry :: entries) = entry.1 :: Dictionary.names entries := rfl

theorem mem_of_find? (h : find? name entries = some value) : (name, value) ∈ entries := by
  induction entries with
  | nil => cases h
  | cons entry rest ih =>
    simp only [find?] at h
    split at h
    · next hname =>
      obtain rfl := Option.some.inj h
      exact hname ▸ List.mem_cons_self
    · exact List.mem_cons_of_mem _ (ih h)

theorem find?_eq_none_iff : find? name entries = none ↔ name ∉ Dictionary.names entries := by
  rw [← find?_isSome_iff, Option.not_isSome_iff_eq_none]

theorem find?_of_mem (hdistinct : (Dictionary.names entries).Nodup) (h : (name, value) ∈ entries) :
    find? name entries = some value := by
  induction entries with
  | nil => cases h
  | cons entry rest ih =>
    obtain ⟨key, first⟩ := entry
    simp only [names_cons, List.nodup_cons] at hdistinct
    rcases List.mem_cons.1 h with heq | hmem
    · cases heq
      simp [find?]
    · have hname : name ∈ Dictionary.names rest := List.mem_map.2 ⟨_, hmem, rfl⟩
      have hne : key ≠ name := fun he => hdistinct.1 (he ▸ hname)
      simp only [find?, if_neg hne]
      exact ih hdistinct.2 hmem

theorem names_perm (h : entries.Perm others) :
    (Dictionary.names entries).Perm (Dictionary.names others) :=
  h.map _

theorem find?_perm (name : String) (hdistinct : (Dictionary.names entries).Nodup) (h : entries.Perm others) :
    find? name others = find? name entries := by
  have hdistinct' : (Dictionary.names others).Nodup := (names_perm h).nodup_iff.1 hdistinct
  cases hfind : find? name entries with
  | none =>
    rw [find?_eq_none_iff] at hfind ⊢
    rwa [← (names_perm h).mem_iff]
  | some value => exact find?_of_mem hdistinct' (h.mem_iff.1 (mem_of_find? hfind))

theorem mem_values : value ∈ values entries ↔ ∃ name, (name, value) ∈ entries := by
  simp [values]

theorem mem_names_of_mem (h : (name, value) ∈ entries) : name ∈ Dictionary.names entries :=
  List.mem_map.2 ⟨_, h, rfl⟩

theorem find?_append (name : String) (first second : Dictionary α) :
    find? name (first ++ second) = (find? name first).or (find? name second) := by
  induction first with
  | nil => rfl
  | cons entry rest ih =>
    simp only [List.cons_append, find?]
    split
    · rfl
    · exact ih

theorem find?_put (name key : String) (value : α) (entries : Dictionary α) :
    find? name (put key value entries) = if key = name then some value else find? name entries := by
  split
  · next h => rw [← h, find?_put_self]
  · next h => exact find?_put_of_ne (Ne.symm h) value entries

theorem put_of_find? (h : find? name entries = some value) : put name value entries = entries := by
  induction entries with
  | nil => cases h
  | cons entry rest ih =>
    obtain ⟨key, first⟩ := entry
    simp only [find?] at h
    simp only [put]
    split
    · next hname =>
      rw [if_pos hname] at h
      rw [Option.some.inj h]
    · next hname =>
      rw [if_neg hname] at h
      rw [ih h]

theorem nodup_names_put (key : String) (value : α) (h : (Dictionary.names entries).Nodup) :
    (Dictionary.names (put key value entries)).Nodup := by
  rw [names_put]
  split
  · exact h
  · next hnew =>
    refine List.nodup_append.2 ⟨h, by simp, ?_⟩
    rintro name hname _ hkey rfl
    exact hnew (List.mem_singleton.1 hkey ▸ hname)

theorem mem_put_self (name : String) (value : α) (entries : Dictionary α) :
    (name, value) ∈ put name value entries :=
  mem_of_find? (find?_put_self name value entries)

theorem eq_or_mem_of_mem_put {key : String} {entry : String × α}
    (h : entry ∈ put key value entries) : entry = (key, value) ∨ entry ∈ entries := by
  induction entries with
  | nil => exact .inl (List.mem_singleton.1 h)
  | cons first rest ih =>
    simp only [put] at h
    split at h
    · next hkey =>
      rw [hkey] at h
      exact (List.mem_cons.1 h).imp_right (List.mem_cons_of_mem _)
    · rcases List.mem_cons.1 h with hfirst | hrest
      · exact .inr (hfirst ▸ List.mem_cons_self)
      · exact (ih hrest).imp_right (List.mem_cons_of_mem _)

theorem put_of_new (value : α) (h : name ∉ Dictionary.names entries) :
    put name value entries = entries ++ [(name, value)] := by
  induction entries with
  | nil => rfl
  | cons entry rest ih =>
    simp only [names_cons, List.mem_cons, not_or] at h
    simp only [put, if_neg (Ne.symm h.1), ih h.2, List.cons_append]

theorem put_in_place {front back : Dictionary α} (old value : α)
    (h : name ∉ Dictionary.names front) :
    put name value (front ++ (name, old) :: back) = front ++ (name, value) :: back := by
  induction front with
  | nil => simp [put]
  | cons entry rest ih =>
    simp only [names_cons, List.mem_cons, not_or] at h
    simp only [List.cons_append, put, if_neg (Ne.symm h.1), ih h.2]

theorem find?_mapValues (f : α → β) (name : String) (entries : Dictionary α) :
    find? name (mapValues f entries) = (find? name entries).map f := by
  induction entries with
  | nil => rfl
  | cons entry rest ih =>
    simp only [mapValues, List.map_cons, find?]
    split
    · rfl
    · exact ih

theorem mapValues_mapValues {γ : Type} (g : β → γ) (f : α → β) (entries : Dictionary α) :
    mapValues g (mapValues f entries) = mapValues (g ∘ f) entries := by
  simp [mapValues]

theorem values_mapValues (f : α → β) (entries : Dictionary α) :
    values (mapValues f entries) = (values entries).map f := by
  simp [values, mapValues]

/-- Every value replaced by one that may depend on its name. -/
def mapEntries (f : String → α → β) (entries : Dictionary α) : Dictionary β :=
  entries.map fun entry => (entry.1, f entry.1 entry.2)

theorem mapEntries_put (f : String → α → β) (key : String) (value : α) (entries : Dictionary α) :
    mapEntries f (put key value entries) = put key (f key value) (mapEntries f entries) := by
  induction entries with
  | nil => rfl
  | cons entry rest ih =>
    simp only [mapEntries] at ih
    simp only [put, mapEntries, List.map_cons]
    split
    · next hkey => rw [hkey, List.map_cons]
    · rw [List.map_cons, ih]

theorem mapValues_put (f : α → β) (key : String) (value : α) (entries : Dictionary α) :
    mapValues f (put key value entries) = put key (f value) (mapValues f entries) :=
  mapEntries_put (fun _ => f) key value entries

theorem mapValues_put_of_eq {f : α → β} {old : α} (h : find? name entries = some old)
    (hf : f value = f old) : mapValues f (put name value entries) = mapValues f entries := by
  rw [mapValues_put]
  apply put_of_find?
  rw [find?_mapValues, h, hf]
  rfl

theorem putAll_cons (change : String × α) (entries : Dictionary α) (changes : List (String × α)) :
    putAll entries (change :: changes) = putAll (put change.1 change.2 entries) changes :=
  rfl

theorem putAll_append (entries : Dictionary α) (first second : List (String × α)) :
    putAll entries (first ++ second) = putAll (putAll entries first) second := by
  simp [putAll]

theorem putAll_of_new (h : (Dictionary.names (entries ++ changes)).Nodup) :
    putAll entries changes = entries ++ changes := by
  induction changes generalizing entries with
  | nil => simp [putAll]
  | cons change rest ih =>
    have hnew : change.1 ∉ Dictionary.names entries := by
      intro hname
      simp only [Dictionary.names, List.map_append, List.map_cons] at h hname
      exact (List.nodup_append.1 h).2.2 _ hname _ List.mem_cons_self rfl
    have happend : entries ++ change :: rest = entries ++ [change] ++ rest := List.append_cons ..
    rw [happend] at h ⊢
    rw [putAll_cons, put_of_new _ hnew]
    exact ih h

theorem ofList_of_nodup (h : (Dictionary.names changes).Nodup) : ofList changes = changes :=
  putAll_of_new h

theorem mapEntries_putAll (f : String → α → β) (entries : Dictionary α)
    (changes : List (String × α)) :
    mapEntries f (putAll entries changes) = putAll (mapEntries f entries) (mapEntries f changes) := by
  induction changes generalizing entries with
  | nil => rfl
  | cons change rest ih =>
    rw [putAll_cons, ih, mapEntries_put]
    rfl

theorem mapValues_putAll (f : α → β) (entries : Dictionary α) (changes : List (String × α)) :
    mapValues f (putAll entries changes) = putAll (mapValues f entries) (mapValues f changes) :=
  mapEntries_putAll (fun _ => f) entries changes

theorem mapEntries_ofList (f : String → α → β) (changes : List (String × α)) :
    mapEntries f (ofList changes) = ofList (mapEntries f changes) :=
  mapEntries_putAll f [] changes

theorem names_putAll (entries : Dictionary α) (changes : List (String × α)) :
    Dictionary.names (putAll entries changes) = Dictionary.names entries
      ++ firstsBeyond (Dictionary.names entries) (Dictionary.names changes) := by
  induction changes generalizing entries with
  | nil => simp [putAll, names_nil, firstsBeyond]
  | cons change rest ih =>
    rw [putAll_cons, ih, names_put]
    simp only [names_cons, firstsBeyond]
    split
    · rfl
    · rw [List.append_assoc, List.singleton_append]
      congr 2
      apply firstsBeyond_congr
      simp [or_comm]

theorem names_ofList (changes : List (String × α)) :
    Dictionary.names (ofList changes) = firsts (Dictionary.names changes) := by
  rw [ofList, names_putAll, names_nil, List.nil_append, firsts]

theorem find?_putAll (name : String) (entries : Dictionary α) (changes : List (String × α)) :
    find? name (putAll entries changes) = (find? name changes.reverse).or (find? name entries) := by
  induction changes generalizing entries with
  | nil => rfl
  | cons change rest ih =>
    rw [putAll_cons, ih, find?_put, List.reverse_cons, find?_append, Option.or_assoc]
    congr 1
    simp only [find?]
    split <;> rfl

theorem find?_ofList (name : String) (changes : List (String × α)) :
    find? name (ofList changes) = find? name changes.reverse := by
  simp [ofList, find?_putAll, find?]

theorem find?_reverse_eq_some_iff :
    find? name changes.reverse = some value
      ↔ ∃ before after, changes = before ++ (name, value) :: after
        ∧ name ∉ Dictionary.names after := by
  induction changes with
  | nil => simp [find?]
  | cons change rest ih =>
    rw [List.reverse_cons, find?_append, Option.or_eq_some_iff, ih]
    constructor
    · intro h
      rcases h with ⟨before, after, rfl, hlast⟩ | ⟨hnone, hfirst⟩
      · exact ⟨change :: before, after, rfl, hlast⟩
      · rw [find?_eq_none_iff, Dictionary.names, List.map_reverse, List.mem_reverse] at hnone
        have hchange := List.mem_singleton.1 (mem_of_find? hfirst)
        exact ⟨[], rest, hchange ▸ rfl, hnone⟩
    · intro h
      obtain ⟨before, after, hsplit, hlast⟩ := h
      cases before with
      | nil =>
        obtain ⟨rfl, rfl⟩ := List.cons.inj hsplit
        have hnone : find? name rest.reverse = none := by
          rw [find?_eq_none_iff, Dictionary.names, List.map_reverse, List.mem_reverse]
          exact hlast
        exact .inr ⟨hnone, by simp [find?]⟩
      | cons first others =>
        obtain ⟨rfl, rfl⟩ := List.cons.inj hsplit
        exact .inl ⟨others, after, rfl, hlast⟩

/-- Names in their order and what is found under them are all there is to a dictionary. -/
theorem eq_of_find? (hdistinct : (Dictionary.names entries).Nodup)
    (hnames : Dictionary.names others = Dictionary.names entries)
    (h : ∀ name, find? name others = find? name entries) : others = entries := by
  induction entries generalizing others with
  | nil => exact List.map_eq_nil_iff.1 hnames
  | cons entry rest ih =>
    cases others with
    | nil => cases hnames
    | cons other more =>
      obtain ⟨key, value⟩ := entry
      obtain ⟨otherKey, otherValue⟩ := other
      simp only [names_cons, List.cons.injEq] at hnames hdistinct
      obtain ⟨rfl, hmore⟩ := hnames
      obtain ⟨hnew, hrest⟩ := List.nodup_cons.1 hdistinct
      have hvalue : otherValue = value := by simpa [find?] using h otherKey
      have htail : ∀ name, find? name more = find? name rest := by
        intro name
        by_cases hname : otherKey = name
        · have hnew' : name ∉ Dictionary.names rest := hname ▸ hnew
          rw [find?_eq_none_iff.2 hnew', find?_eq_none_iff.2 (hmore ▸ hnew')]
        · simpa [find?, hname] using h name
      rw [hvalue, ih hrest hmore htail]

end Dictionary

end StorageTypes
