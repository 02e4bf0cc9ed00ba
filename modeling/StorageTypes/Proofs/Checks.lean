import Mathlib.Data.List.Forall2
import StorageTypes.Proofs.Results
import StorageTypes.Schema.Model

namespace StorageTypes

open Json (Value)

variable {α β : Type} {value object : Value} {content name : String}

theorem Checked.all_eq_ok_iff {checks : List (Checked α)} {results : List α} :
    Checked.all checks = .ok results ↔ checks = results.map .ok := by
  induction checks generalizing results with
  | nil => cases results <;> simp [Checked.all]
  | cons first rest ih =>
    simp only [Checked.all, Checked.apply_eq_ok_iff, Except.ok.injEq]
    constructor
    · intro h
      obtain ⟨_, others, ⟨_, result, rfl, rfl, rfl⟩, hrest, rfl⟩ := h
      rw [ih.1 hrest, List.map_cons]
    · intro h
      cases results with
      | nil => cases h
      | cons result others =>
        rw [List.map_cons, List.cons.injEq] at h
        exact ⟨_, others, ⟨_, result, rfl, h.1, rfl⟩, ih.2 h.2, rfl⟩

namespace Check

theorem text_eq_ok_iff : text value = .ok content ↔ value = .str content := by
  cases value <;> simp [text, Checked.fail]

theorem nonemptyText_eq_ok_iff :
    nonemptyText value = .ok content ↔ value = .str content ∧ content ≠ "" := by
  cases value with
  | str given =>
    simp only [nonemptyText, Value.str.injEq]
    split
    · next hempty =>
      simp only [Checked.fail, reduceCtorEq, false_iff, not_and, not_not]
      intro h
      rw [← h, hempty]
    · next hgiven =>
      rw [Except.ok.injEq]
      constructor
      · intro h
        exact ⟨h, h ▸ hgiven⟩
      · intro h
        exact h.1
  | _ => simp [nonemptyText, Checked.fail]

theorem nullable_text_eq_ok_iff {found : Option String} :
    nullable text value = .ok found ↔ value = Json.ofText? found := by
  cases value <;> cases found <;> simp [nullable, text, Checked.fail, Json.ofText?, Except.map]

theorem pair_eq_ok_iff {first second : String} :
    pair value = .ok (first, second) ↔ value = .arr [.str first, .str second] := by
  constructor
  · intro h
    simp only [pair] at h
    split at h
    · cases h
    · simp [Checked.apply_eq_ok_iff] at h
    · simp only [Checked.apply_eq_ok_iff, Checked.within_eq_ok_iff, text_eq_ok_iff,
        Except.ok.injEq] at h
      obtain ⟨_, _, ⟨_, _, rfl, rfl, rfl⟩, rfl, hpair⟩ := h
      rw [Prod.mk.injEq] at hpair
      rw [hpair.1, hpair.2]
    · cases h
    · cases h
  · intro h
    rw [h]
    rfl

theorem required_eq_ok_iff {check : Value → Checked α} {a : α} :
    required name check object = .ok a
      ↔ ∃ value, object.member? name = some value ∧ check value = .ok a := by
  simp only [required]
  cases object.member? name <;> simp [Checked.within_eq_ok_iff]

theorem optional_eq_ok_iff {check : Value → Checked α} {default a : α} :
    optional name default check object = .ok a
      ↔ object.member? name = none ∧ default = a
        ∨ ∃ value, object.member? name = some value ∧ check value = .ok a := by
  simp only [optional]
  cases object.member? name <;> simp [Checked.within_eq_ok_iff]

theorem required_of_member {check : Value → Checked α} {a : α}
    (h : object.member? name = some value) :
    required name check object = .ok a ↔ check value = .ok a := by
  simp [required_eq_ok_iff, h]

theorem optional_of_member {check : Value → Checked α} {default a : α}
    (h : object.member? name = some value) :
    optional name default check object = .ok a ↔ check value = .ok a := by
  simp [optional_eq_ok_iff, h]

theorem itemsFrom_eq_iff {check : Value → Checked α} {index : Nat} {items : List Value}
    {results : List α} :
    itemsFrom check index items = results.map .ok
      ↔ List.Forall₂ (fun item result => check item = .ok result) items results := by
  induction items generalizing index results with
  | nil => cases results <;> simp [itemsFrom]
  | cons item rest ih =>
    cases results with
    | nil => simp [itemsFrom]
    | cons result others =>
      rw [itemsFrom, List.map_cons, List.cons.injEq, Checked.within_eq_ok_iff, ih,
        List.forall₂_cons]

theorem list_eq_ok_iff {check : Value → Checked α} {items : List Value} {results : List α} :
    list check (.arr items) = .ok results
      ↔ List.Forall₂ (fun item result => check item = .ok result) items results := by
  rw [list, Checked.all_eq_ok_iff, itemsFrom_eq_iff]

theorem entries_eq_ok_iff {check : Value → Checked α} {given : List (String × Value)}
    {results : Dictionary α} :
    entries check (.obj given) = .ok results
      ↔ List.Forall₂ (fun entry result => entry.1 = result.1 ∧ check entry.2 = .ok result.2)
          given results := by
  rw [entries, Checked.all_eq_ok_iff]
  induction given generalizing results with
  | nil => cases results <;> simp
  | cons entry rest ih =>
    cases results with
    | nil => simp
    | cons result others =>
      rw [List.map_cons, List.map_cons, List.cons.injEq, ih, List.forall₂_cons, map_eq_ok_iff]
      simp only [Checked.within_eq_ok_iff, Prod.ext_iff]
      apply and_congr_left'
      constructor
      · intro h
        obtain ⟨a, ha, hname, hvalue⟩ := h
        exact ⟨hname, hvalue ▸ ha⟩
      · intro h
        exact ⟨result.2, h.2, h.1, rfl⟩

theorem list_map_of_mem {check : Value → Checked α} {write : α → Value} {items : List α}
    (h : ∀ item ∈ items, check (write item) = .ok item) :
    list check (.arr (items.map write)) = .ok items := by
  rw [list_eq_ok_iff, List.forall₂_map_left_iff, List.forall₂_same]
  exact h

theorem entries_mapValues_of_mem {check : Value → Checked α} {write : α → Value}
    {given : Dictionary α} (h : ∀ entry ∈ given, check (write entry.2) = .ok entry.2) :
    entries check (.obj (Dictionary.mapValues write given)) = .ok given := by
  rw [entries_eq_ok_iff, Dictionary.mapValues, List.forall₂_map_left_iff, List.forall₂_same]
  intro entry hentry
  exact ⟨rfl, h entry hentry⟩

theorem list_texts (texts : List String) : list text (.arr (texts.map .str)) = .ok texts :=
  list_map_of_mem fun _ _ => rfl

theorem eq_of_list_texts {items : List Value} {texts : List String}
    (h : list text (.arr items) = .ok texts) : items = texts.map .str := by
  rw [list_eq_ok_iff] at h
  induction h with
  | nil => rfl
  | cons hfirst _ ih => rw [List.map_cons, text_eq_ok_iff.1 hfirst, ih]

end Check

theorem PrimaryKey.check_toValue (key : PrimaryKey) : PrimaryKey.check key.toValue = .ok key := by
  cases key with
  | absent => rfl
  | single field => rfl
  | composite fields => simp [PrimaryKey.toValue, PrimaryKey.check, Check.list_texts]

theorem PrimaryKey.check_eq_ok_iff {key : PrimaryKey} :
    PrimaryKey.check value = .ok key ↔ key.toValue = value := by
  constructor
  · intro h
    cases value with
    | null | str field =>
      cases h
      rfl
    | arr items =>
      simp only [PrimaryKey.check] at h
      split at h
      · next fields hfields =>
        cases h
        rw [Check.eq_of_list_texts hfields, PrimaryKey.toValue]
      · cases h
    | _ => cases h
  · intro h
    rw [← h]
    exact key.check_toValue

end StorageTypes
