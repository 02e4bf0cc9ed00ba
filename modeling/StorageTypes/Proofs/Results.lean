import StorageTypes.Log
import StorageTypes.Schema.Issue

namespace StorageTypes

variable {ε ε' α β : Type}

theorem map_eq_ok_iff {x : Except ε α} {f : α → β} {b : β} :
    x.map f = .ok b ↔ ∃ a, x = .ok a ∧ f a = b := by
  cases x <;> simp [Except.map]

theorem bind_eq_ok_iff {x : Except ε α} {f : α → Except ε β} {b : β} :
    (x >>= f) = .ok b ↔ ∃ a, x = .ok a ∧ f a = .ok b := by
  cases x <;> simp [bind, Except.bind]

theorem mapError_eq_ok_iff {x : Except ε α} {f : ε → ε'} {a : α} :
    x.mapError f = .ok a ↔ x = .ok a := by
  cases x <;> constructor <;> intro h <;> cases h <;> rfl

theorem map_eq_error_iff {x : Except ε α} {f : α → β} {error : ε} :
    x.map f = .error error ↔ x = .error error := by
  cases x <;> simp [Except.map]

theorem mapError_eq_error_iff {x : Except ε α} {f : ε → ε'} {error : ε'} :
    x.mapError f = .error error ↔ ∃ cause, x = .error cause ∧ f cause = error := by
  constructor
  · intro h
    cases x with
    | error cause => exact ⟨cause, rfl, Except.error.inj h⟩
    | ok a => cases h
  · rintro ⟨cause, rfl, rfl⟩
    rfl

theorem mapError_inj {f : ε → ε'} (hf : Function.Injective f) {x y : Except ε α} :
    x.mapError f = y.mapError f ↔ x = y := by
  constructor
  · intro h
    cases x with
    | ok a =>
      cases y with
      | ok b => exact congrArg _ (Except.ok.inj h)
      | error cause => cases h
    | error cause =>
      cases y with
      | ok b => cases h
      | error other => exact congrArg _ (hf (Except.error.inj h))
  · rintro rfl
    rfl

theorem ite_error_eq_ok_iff {refused : Prop} [Decidable refused] {error : ε} {x : Except ε α} {a : α} :
    (if refused then .error error else x) = .ok a ↔ ¬refused ∧ x = .ok a := by
  by_cases h : refused <;> simp [h]

theorem exists_error_iff {x : Except ε α} : (∃ error, x = .error error) ↔ ¬∃ a, x = .ok a := by
  cases x <;> simp

/-- Computations that fail in no other than the allowed ways, if they fail. -/
def FailsOnly (allowed : ε → Prop) (x : Except ε α) : Prop :=
  ∀ error, x = .error error → allowed error

namespace FailsOnly

variable {allowed : ε → Prop}

theorem ok (a : α) : FailsOnly allowed (.ok a) := by
  intro error h
  cases h

theorem error {cause : ε} (h : allowed cause) : FailsOnly allowed (.error cause : Except ε α) := by
  intro error hcause
  cases hcause
  exact h

theorem map {x : Except ε α} (h : FailsOnly allowed x) (f : α → β) :
    FailsOnly allowed (x.map f) := by
  intro error hx
  exact h error (map_eq_error_iff.1 hx)

end FailsOnly

namespace Logged

theorem bind_eq_ok_iff {x : Logged ε α} {f : α → Logged ε β} {b : β} :
    (x.bind f).result = .ok b ↔ ∃ a, x.result = .ok a ∧ (f a).result = .ok b := by
  cases h : x.result <;> simp [Logged.bind, h]

theorem map_eq_ok_iff {x : Logged ε α} {f : α → β} {b : β} :
    (x.map f).result = .ok b ↔ ∃ a, x.result = .ok a ∧ f a = b :=
  StorageTypes.map_eq_ok_iff

theorem mapError_eq_ok_iff {x : Logged ε α} {f : ε → ε'} {a : α} :
    (x.mapError f).result = .ok a ↔ x.result = .ok a :=
  StorageTypes.mapError_eq_ok_iff

theorem ofExcept_result (x : Except ε α) : (ofExcept x).result = x := rfl

theorem bind_eq_error_iff {x : Logged ε α} {f : α → Logged ε β} {error : ε} :
    (x.bind f).result = .error error
      ↔ x.result = .error error ∨ ∃ a, x.result = .ok a ∧ (f a).result = .error error := by
  cases h : x.result <;> simp [Logged.bind, h]

theorem mapError_eq_error_iff {x : Logged ε α} {f : ε → ε'} {error : ε'} :
    (x.mapError f).result = .error error ↔ ∃ cause, x.result = .error cause ∧ f cause = error :=
  StorageTypes.mapError_eq_error_iff

theorem bind_failsOnly {allowed : ε → Prop} {x : Logged ε α} {f : α → Logged ε β}
    (hx : FailsOnly allowed x.result) (hf : ∀ a, FailsOnly allowed (f a).result) :
    FailsOnly allowed (x.bind f).result := by
  intro error h
  rcases bind_eq_error_iff.1 h with hfirst | ⟨a, -, hsecond⟩
  · exact hx error hfirst
  · exact hf a error hsecond

theorem map_failsOnly {allowed : ε → Prop} {x : Logged ε α} (h : FailsOnly allowed x.result)
    (f : α → β) : FailsOnly allowed (x.map f).result :=
  h.map f

theorem log_bind {x : Logged ε α} {f : α → Logged ε β} {a : α} (h : x.result = .ok a) :
    (x.bind f).log = x.log ++ (f a).log := by
  simp only [Logged.bind, h]

end Logged

namespace Checked

theorem apply_eq_ok_iff {f : Checked (α → β)} {x : Checked α} {b : β} :
    Checked.apply f x = .ok b ↔ ∃ g a, f = .ok g ∧ x = .ok a ∧ g a = b := by
  cases f <;> cases x <;> simp [Checked.apply]

theorem within_eq_ok_iff {step : Step} {x : Checked α} {a : α} :
    x.within step = .ok a ↔ x = .ok a := by
  cases x <;> simp [Checked.within]

end Checked

end StorageTypes
