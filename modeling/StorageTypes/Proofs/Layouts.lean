import Mathlib.Data.List.TakeWhile
import StorageTypes.ImportPath.Layout
import StorageTypes.Proofs.Results

namespace StorageTypes.ImportPath

variable {text rest digits : List Char} {c : Char} {width : Nat} {places : Option Nat}

/-- Digits that write a number within the limit, or no digits. -/
structure Numeric (digits : List Char) : Prop where
  digit : ∀ c ∈ digits, Text.isDigit c = true
  small : Text.digitsValue digits ≤ numberLimit

def NoDigit (text : List Char) : Prop :=
  ∀ c, text.head? = some c → Text.isDigit c = false

theorem noDigit_dropWhile (text : List Char) : NoDigit (text.dropWhile Text.isDigit) := by
  intro c hc
  have hstop := List.head?_dropWhile_not Text.isDigit text
  rwa [hc] at hstop

theorem takeWhile_digits (hdigits : ∀ c ∈ digits, Text.isDigit c = true) (hrest : NoDigit rest) :
    (digits ++ rest).takeWhile Text.isDigit = digits := by
  rw [List.takeWhile_append_of_pos hdigits]
  cases rest with
  | nil => simp
  | cons c rest => simp [hrest c rfl]

theorem dropWhile_digits (hdigits : ∀ c ∈ digits, Text.isDigit c = true) (hrest : NoDigit rest) :
    (digits ++ rest).dropWhile Text.isDigit = rest := by
  rw [List.dropWhile_append_of_pos hdigits]
  cases rest with
  | nil => rfl
  | cons c rest => simp [hrest c rfl]

def numberOf (digits : List Char) : Option Nat :=
  if digits.isEmpty then none else some (Text.digitsValue digits)

theorem getD_numberOf (digits : List Char) : (numberOf digits).getD 0 = Text.digitsValue digits := by
  cases digits with
  | nil => rfl
  | cons c digits => rfl

theorem takeNumber_eq_ok_iff {number : Option Nat} :
    takeNumber text = .ok (number, rest)
      ↔ ∃ digits, Numeric digits ∧ NoDigit rest ∧ text = digits ++ rest ∧ number = numberOf digits := by
  constructor
  · intro h
    rw [takeNumber] at h
    split at h
    · cases h
    next hshort =>
    have hsmall : Text.digitsValue (text.takeWhile Text.isDigit) ≤ numberLimit := by
      simpa [startsTooLong] using hshort
    have hsplit : text = text.takeWhile Text.isDigit ++ text.dropWhile Text.isDigit :=
      List.takeWhile_append_dropWhile.symm
    have hnumeric : Numeric (text.takeWhile Text.isDigit) :=
      ⟨fun c => List.mem_takeWhile_imp, hsmall⟩
    refine ⟨text.takeWhile Text.isDigit, hnumeric, ?_⟩
    split at h
    next hnone =>
      cases h
      rw [hnone, List.nil_append] at hsplit
      rw [hnone]
      exact ⟨hsplit ▸ noDigit_dropWhile text, rfl, rfl⟩
    next hsome =>
      cases h
      refine ⟨noDigit_dropWhile text, hsplit, ?_⟩
      rw [numberOf, if_neg (by simpa using hsome)]
  · rintro ⟨digits, hnumeric, hrest, rfl, rfl⟩
    have htake := takeWhile_digits hnumeric.digit hrest
    have hdrop := dropWhile_digits hnumeric.digit hrest
    have hshort : startsTooLong (digits ++ rest) = false := by
      rw [startsTooLong, htake]
      exact decide_eq_false (Nat.not_lt.2 hnumeric.small)
    rw [takeNumber, hshort, htake, hdrop]
    cases digits with
    | nil => rfl
    | cons c digits => rfl

theorem digitsValue_zero (digits : List Char) :
    Text.digitsValue ('0' :: digits) = Text.digitsValue digits := rfl

def Allows [Host] (text : List Char) (width : Nat) (places : Option Nat) : Prop :=
  ∃ layout, Layout.read text = .ok layout ∧ layout.allowed = .ok () ∧ layout.width.getD 0 = width
    ∧ layout.places = places

/-- Places as they are written. -/
inductive Points : List Char → Option Nat → Prop where
  | none : Points [] none
  | some {digits : List Char} (hne : digits ≠ []) (hnumeric : Numeric digits) :
      Points ('.' :: digits) (some (Text.digitsValue digits))

/-- What may follow the fill and the side: a width, places and the code for texts. -/
inductive Sized [Host] : List Char → Nat → Option Nat → Prop where
  | mk {digits points code : List Char} {places : Option Nat} (hdigits : Numeric digits)
      (hwidth : Text.digitsValue digits ≤ Host.room) (hpoints : Points points places)
      (hcode : code = [] ∨ code = ['s']) :
      Sized (digits ++ (points ++ code)) (Text.digitsValue digits) places

theorem takeMark_none {test : Char → Bool} (h : takeMark test text = (none, rest)) : rest = text := by
  cases text with
  | nil =>
    cases h
    rfl
  | cons c text =>
    simp only [takeMark] at h
    split at h
    · cases h
    · cases h
      rfl

theorem takeMark_some {test : Char → Bool} (h : takeMark test text = (some c, rest)) :
    text = c :: rest ∧ test c = true := by
  cases text with
  | nil => cases h
  | cons d text =>
    simp only [takeMark] at h
    split at h
    next hd =>
      cases h
      exact ⟨rfl, hd⟩
    · cases h

theorem allowed_eq_ok_iff [Host] {layout : Layout} :
    layout.allowed = .ok ()
      ↔ layout.code = 's' ∧ layout.sign = none ∧ layout.negativeZero = false ∧ layout.alternate = false
        ∧ layout.side ≠ .signAware ∧ layout.width.getD 0 ≤ Host.room := by
  simp only [Layout.allowed, ite_error_eq_ok_iff]
  cases layout.sign <;> simp

theorem not_groupable (mark : Char) : groupable mark 's' = false := by
  have hcodes : "defgEG%F\x00".toList.contains 's' = false := by decide
  have hbases : "boxX".toList.contains 's' = false := by decide
  rw [groupable, hcodes, hbases, Bool.and_false, Bool.or_false]

theorem takeSeparator_none (h : takeSeparator text = .ok (none, rest)) : rest = text := by
  simp only [takeSeparator] at h
  cases hcomma : takeMark (fun x => x == ',') text with | mk comma rest₁ =>
  cases hunderscore : takeMark (fun x => x == '_') rest₁ with | mk underscore rest₂ =>
  simp only [hcomma, hunderscore] at h
  split at h
  · cases h
  · cases h
  · cases h
  · cases h
  · cases h
    rw [takeMark_none hunderscore, takeMark_none hcomma]

theorem points_of_takePlaces (h : takePlaces text = .ok (places, rest)) :
    ∃ points, Points points places ∧ text = points ++ rest := by
  rw [takePlaces] at h
  split at h
  · cases h
    exact ⟨[], .none, rfl⟩
  next after hpoint =>
    obtain ⟨rfl, hmark⟩ := takeMark_some hpoint
    obtain rfl := eq_of_beq hmark
    split at h
    · cases h
    · cases h
    next count _ hnumber =>
      cases h
      obtain ⟨digits, hnumeric, -, rfl, hcount⟩ := takeNumber_eq_ok_iff.1 hnumber
      cases digits with
      | nil => cases hcount
      | cons digit digits =>
        cases hcount
        exact ⟨_, .some (List.cons_ne_nil _ _) hnumeric, rfl⟩

theorem Numeric.zero_cons (h : Numeric digits) : Numeric ('0' :: digits) :=
  ⟨List.forall_mem_cons.2 ⟨rfl, h.digit⟩, h.small⟩

theorem sized_of_takeNumber [Host] {after code : List Char} {number : Option Nat}
    (hzero : rest = text ∨ rest = '0' :: text) (hnumber : takeNumber text = .ok (number, after))
    (hwidth : number.getD 0 ≤ Host.room) (hpoints : takePlaces after = .ok (places, code))
    (hcode : code = [] ∨ code = ['s']) : Sized rest (number.getD 0) places := by
  obtain ⟨digits, hnumeric, -, rfl, rfl⟩ := takeNumber_eq_ok_iff.1 hnumber
  obtain ⟨points, hwritten, rfl⟩ := points_of_takePlaces hpoints
  rw [getD_numberOf] at hwidth ⊢
  rcases hzero with rfl | rfl
  · exact .mk hnumeric hwidth hwritten hcode
  · rw [← digitsValue_zero] at hwidth ⊢
    exact .mk hnumeric.zero_cons hwidth hwritten hcode

theorem start_of_takeMark {fill : Option Char} {zero : Option Char} {after : List Char}
    (h : (if fill.isNone then takeMark (fun x => x == '0') rest else (none, rest)) = (zero, after)) :
    rest = after ∨ rest = '0' :: after := by
  split at h
  · cases zero with
    | none => exact .inl (takeMark_none h).symm
    | some mark =>
      obtain ⟨hmark, htest⟩ := takeMark_some h
      exact .inr (eq_of_beq htest ▸ hmark)
  · cases h
    exact .inl rfl

theorem sized_of_read [Host] {layout : Layout} {fill : Option Char} {side : Option Side}
    (hside : takeSide text = (fill, side, rest)) (hread : Layout.read text = .ok layout)
    (hallowed : layout.allowed = .ok ()) :
    side ≠ some .signAware ∧ Sized rest (layout.width.getD 0) layout.places := by
  simp only [Layout.read, hside] at hread
  cases hsign : takeMark (fun c => c == ' ' || c == '+' || c == '-') rest with | mk sign rest₁ =>
  cases hnegative : takeMark (fun x => x == 'z') rest₁ with | mk negativeZero rest₂ =>
  cases halternate : takeMark (fun x => x == '#') rest₂ with | mk alternate rest₃ =>
  cases hzero : (if fill.isNone then takeMark (fun x => x == '0') rest₃ else (none, rest₃)) with
    | mk zero rest₄ =>
  simp only [hsign, hnegative, halternate, hzero] at hread
  obtain ⟨⟨number, rest₅⟩, hnumber, hread⟩ := bind_eq_ok_iff.1 hread
  obtain ⟨⟨separator, rest₆⟩, hseparator, hread⟩ := bind_eq_ok_iff.1 hread
  obtain ⟨⟨points, rest₇⟩, hpoints, hread⟩ := bind_eq_ok_iff.1 hread
  dsimp only at hread
  generalize (if zero.isSome then '0' else fill.getD ' ') = filling at hread
  obtain ⟨hcode, hsigned⟩ := allowed_eq_ok_iff.1 hallowed
  have hplain : separator = none := by
    cases separator with
    | none => rfl
    | some mark =>
      split at hread
      · simp only [bind, Except.bind, not_groupable] at hread
        cases hread
      · simp only [bind, Except.bind] at hread
        split at hread
        · cases hread
        next hgroup =>
          cases hread
          obtain rfl : _ = 's' := hcode
          rw [not_groupable] at hgroup
          exact absurd rfl hgroup
      · cases hread
  subst hplain
  have hparts : (rest₇ = [] ∨ rest₇ = ['s'])
      ∧ layout = ⟨filling, side.getD .left, sign, negativeZero.isSome, alternate.isSome, number, none,
        points, 's'⟩ := by
    split at hread
    · cases hread
      exact ⟨.inl rfl, rfl⟩
    · cases hread
      obtain rfl : _ = 's' := hcode
      exact ⟨.inr rfl, rfl⟩
    · cases hread
  obtain ⟨hend, rfl⟩ := hparts
  obtain ⟨rfl, hnegative', halternate', hside', hwidth⟩ := hsigned
  obtain rfl : negativeZero = none := by simpa using hnegative'
  obtain rfl : alternate = none := by simpa using halternate'
  have hrest : rest₃ = rest :=
    (takeMark_none halternate).trans ((takeMark_none hnegative).trans (takeMark_none hsign))
  subst hrest
  obtain rfl := takeSeparator_none hseparator
  refine ⟨?_, sized_of_takeNumber (start_of_takeMark hzero) hnumber hwidth hpoints hend⟩
  rintro rfl
  exact hside' rfl

def Sizing (c : Char) : Prop :=
  Text.isDigit c = true ∨ c = '.' ∨ c = 's'

instance (c : Char) : Decidable (Sizing c) :=
  inferInstanceAs (Decidable (Text.isDigit c = true ∨ c = '.' ∨ c = 's'))

theorem ne_of_sizing {d : Char} (hc : Sizing c) (hd : ¬Sizing d) : c ≠ d := by
  rintro rfl
  exact hd hc

theorem Points.sizing {points : List Char} (h : Points points places) : ∀ c ∈ points, Sizing c := by
  intro c hc
  cases h with
  | none => cases hc
  | some _ hnumeric =>
    rcases List.mem_cons.1 hc with rfl | hdigit
    · exact .inr (.inl rfl)
    · exact .inl (hnumeric.digit c hdigit)

theorem Sized.sizing [Host] (h : Sized rest width places) : ∀ c ∈ rest, Sizing c := by
  intro c hc
  cases h with
  | mk hdigits _ hpoints hcode =>
    rcases List.mem_append.1 hc with hdigit | hc
    · exact .inl (hdigits.digit c hdigit)
    rcases List.mem_append.1 hc with hpoint | hc
    · exact hpoints.sizing c hpoint
    · rcases hcode with rfl | rfl
      · cases hc
      · exact .inr (.inr (List.mem_singleton.1 hc))

theorem takeMark_of_sizing {test : Char → Bool} (hrest : ∀ c ∈ rest, Sizing c)
    (htest : ∀ c, Sizing c → test c = false) : takeMark test rest = (none, rest) := by
  cases rest with
  | nil => rfl
  | cons c rest =>
    have hc := htest c (hrest c List.mem_cons_self)
    simp only [takeMark, hc, Bool.false_eq_true, if_false]

theorem takeSeparator_of_sizing (hrest : ∀ c ∈ rest, Sizing c) :
    takeSeparator rest = .ok (none, rest) := by
  have hcomma : ∀ c, Sizing c → (c == ',') = false := fun c hc =>
    beq_false_of_ne (ne_of_sizing hc (by decide))
  have hunderscore : ∀ c, Sizing c → (c == '_') = false := fun c hc =>
    beq_false_of_ne (ne_of_sizing hc (by decide))
  simp only [takeSeparator, takeMark_of_sizing hrest hcomma, takeMark_of_sizing hrest hunderscore]

theorem noDigit_code {code : List Char} (h : code = [] ∨ code = ['s']) : NoDigit code := by
  rcases h with rfl | rfl
  · exact nofun
  · intro c hc
    cases hc
    rfl

theorem Points.noDigit {points code : List Char} (h : Points points places)
    (hcode : code = [] ∨ code = ['s']) : NoDigit (points ++ code) := by
  cases h with
  | none => exact noDigit_code hcode
  | some =>
    intro c hc
    cases hc
    rfl

theorem takePlaces_points {points code : List Char} (h : Points points places)
    (hcode : code = [] ∨ code = ['s']) : takePlaces (points ++ code) = .ok (places, code) := by
  cases h with
  | none => rcases hcode with rfl | rfl <;> rfl
  | @some digits hne hnumeric =>
    have hnumber : takeNumber (digits ++ code) = .ok (numberOf digits, code) :=
      takeNumber_eq_ok_iff.2 ⟨digits, hnumeric, noDigit_code hcode, rfl, rfl⟩
    have hpoint : takeMark (fun x => x == '.') ('.' :: (digits ++ code))
        = (some '.', digits ++ code) := rfl
    rw [List.cons_append, takePlaces, hpoint]
    cases digits with
    | nil => exact absurd rfl hne
    | cons digit digits => simp only [hnumber, numberOf, List.isEmpty_cons, Bool.false_eq_true, if_false]

theorem exists_after_zero (fill : Option Char) (hnumeric : Numeric digits) {after : List Char}
    (hafter : NoDigit after) :
    ∃ zero others, (if fill.isNone then takeMark (fun x => x == '0') (digits ++ after)
        else (none, digits ++ after)) = (zero, others ++ after)
      ∧ Numeric others ∧ Text.digitsValue others = Text.digitsValue digits := by
  cases fill with
  | some _ => exact ⟨none, digits, rfl, hnumeric, rfl⟩
  | none =>
    cases digits with
    | nil =>
      refine ⟨none, [], ?_, hnumeric, rfl⟩
      cases after with
      | nil => rfl
      | cons c after =>
        have hc : c ≠ '0' := by
          rintro rfl
          cases hafter '0' rfl
        simp [takeMark, hc]
    | cons digit digits =>
      by_cases hzero : digit = '0'
      · subst hzero
        exact ⟨some '0', digits, rfl,
          ⟨fun c hc => hnumeric.digit c (List.mem_cons_of_mem _ hc), hnumeric.small⟩, rfl⟩
      · refine ⟨none, digit :: digits, ?_, hnumeric, rfl⟩
        simp [takeMark, hzero]

theorem allows_of_sized [Host] {fill : Option Char} {side : Option Side}
    (hside : takeSide text = (fill, side, rest)) (haware : side ≠ some .signAware)
    (hsized : Sized rest width places) : Allows text width places := by
  have hsizing := hsized.sizing
  have hsign : ∀ c, Sizing c → (c == ' ' || c == '+' || c == '-') = false := by
    intro c hc
    have hblank : c ≠ ' ' := ne_of_sizing hc (by decide)
    have hplus : c ≠ '+' := ne_of_sizing hc (by decide)
    have hminus : c ≠ '-' := ne_of_sizing hc (by decide)
    simp [hblank, hplus, hminus]
  have hnegative : ∀ c, Sizing c → (c == 'z') = false := fun c hc =>
    beq_false_of_ne (ne_of_sizing hc (by decide))
  have halternate : ∀ c, Sizing c → (c == '#') = false := fun c hc =>
    beq_false_of_ne (ne_of_sizing hc (by decide))
  cases hsized with
  | @mk digits points code _ hdigits hwidth hpoints hcode =>
    obtain ⟨zero, others, hzero, hothers, hvalue⟩ :=
      exists_after_zero fill hdigits (hpoints.noDigit hcode)
    have hnumber : takeNumber (others ++ (points ++ code)) = .ok (numberOf others, points ++ code) :=
      takeNumber_eq_ok_iff.2 ⟨others, hothers, hpoints.noDigit hcode, rfl, rfl⟩
    have hseparator : takeSeparator (points ++ code) = .ok (none, points ++ code) :=
      takeSeparator_of_sizing fun c hc => hsizing c (List.mem_append_right _ hc)
    have hread : Layout.read text = .ok ⟨if zero.isSome then '0' else fill.getD ' ', side.getD .left,
        none, false, false, numberOf others, none, places, 's'⟩ := by
      simp only [Layout.read, hside, takeMark_of_sizing hsizing hsign,
        takeMark_of_sizing hsizing hnegative, takeMark_of_sizing hsizing halternate, hzero, hnumber,
        hseparator, takePlaces_points hpoints hcode, bind, Except.bind]
      rcases hcode with rfl | rfl <;> rfl
    refine ⟨_, hread, allowed_eq_ok_iff.2 ⟨rfl, rfl, rfl, rfl, ?_, ?_⟩, ?_, rfl⟩
    · cases side with
      | none => exact nofun
      | some side => exact fun hsame => haware (congrArg some hsame)
    · rwa [getD_numberOf, hvalue]
    · rw [getD_numberOf, hvalue]

/-- A text may be laid out as written exactly if a width, places and the code for texts are all that
follows the fill and side. -/
theorem allows_iff [Host] {fill : Option Char} {side : Option Side}
    (hside : takeSide text = (fill, side, rest)) :
    Allows text width places ↔ side ≠ some .signAware ∧ Sized rest width places := by
  constructor
  · rintro ⟨layout, hread, hallowed, rfl, rfl⟩
    exact sized_of_read hside hread hallowed
  · rintro ⟨haware, hsized⟩
    exact allows_of_sized hside haware hsized

def IsSideMark (mark : Char) : Prop :=
  ∃ side, Side.ofMark? mark = some side

theorem takeSide_fill {mark : Char} {side : Side} (hmark : Side.ofMark? mark = some side) (fill : Char) :
    takeSide (fill :: mark :: rest) = (some fill, some side, rest) := by
  simp only [takeSide, hmark]

theorem not_sizing_of_sideMark {mark : Char} (h : IsSideMark mark) : ¬Sizing mark := by
  obtain ⟨side, hmark⟩ := h
  have hmarks : mark = '<' ∨ mark = '>' ∨ mark = '^' ∨ mark = '=' := by
    simp only [Side.ofMark?] at hmark
    grind
  rcases hmarks with rfl | rfl | rfl | rfl <;> decide

theorem exists_takeSide (text : List Char) :
    ∃ fill side rest, takeSide text = (fill, side, rest)
      ∧ (text = rest ∨ (∃ mark, IsSideMark mark ∧ text = mark :: rest)
        ∨ ∃ fill mark, IsSideMark mark ∧ text = fill :: mark :: rest) := by
  match text with
  | [] => exact ⟨none, none, [], rfl, .inl rfl⟩
  | [c] =>
    cases hc : Side.ofMark? c with
    | none => exact ⟨none, none, [c], by simp only [takeSide, hc], .inl rfl⟩
    | some side => exact ⟨none, some side, [], by simp only [takeSide, hc], .inr (.inl ⟨c, ⟨side, hc⟩, rfl⟩)⟩
  | c :: d :: rest =>
    cases hd : Side.ofMark? d with
    | some side =>
      exact ⟨some c, some side, rest, takeSide_fill hd c, .inr (.inr ⟨c, d, ⟨side, hd⟩, rfl⟩)⟩
    | none =>
      cases hc : Side.ofMark? c with
      | none => exact ⟨none, none, c :: d :: rest, by simp only [takeSide, hc, hd], .inl rfl⟩
      | some side =>
        exact ⟨none, some side, d :: rest, by simp only [takeSide, hc, hd], .inr (.inl ⟨c, ⟨side, hc⟩, rfl⟩)⟩

/-- Another fill, or none, leaves a layout as wide as it is. -/
theorem Allows.refill [Host] {fill mark : Char} (hmark : IsSideMark mark)
    (h : Allows (fill :: mark :: rest) width places) :
    (∀ other, Allows (other :: mark :: rest) width places) ∧ Allows (mark :: rest) width places := by
  obtain ⟨side, hside⟩ := hmark
  obtain ⟨haware, hsized⟩ := (allows_iff (takeSide_fill hside fill)).1 h
  refine ⟨fun other => (allows_iff (takeSide_fill hside other)).2 ⟨haware, hsized⟩, ?_⟩
  have hplain : takeSide (mark :: rest) = (none, some side, rest) := by
    cases rest with
    | nil => simp only [takeSide, hside]
    | cons c rest =>
      have hc : Side.ofMark? c = none := by
        cases hc : Side.ofMark? c with
        | none => rfl
        | some other =>
          exact absurd (hsized.sizing c List.mem_cons_self) (not_sizing_of_sideMark ⟨other, hc⟩)
      simp only [takeSide, hc, hside]
  exact (allows_iff hplain).2 ⟨haware, hsized⟩

theorem Allows.start_of_not_sizing [Host] {front back : List Char} (hc : ¬Sizing c) (hmark : ¬IsSideMark c)
    (h : Allows (front ++ c :: back) width places) :
    front = [] ∧ ∃ mark rest, IsSideMark mark ∧ back = mark :: rest := by
  obtain ⟨fill, side, rest, hside, htext⟩ := exists_takeSide (front ++ c :: back)
  obtain ⟨-, hsized⟩ := (allows_iff hside).1 h
  have hrest : c ∉ rest := fun hmem => hc (hsized.sizing c hmem)
  have hthere : c ∈ front ++ c :: back := List.mem_append_right _ List.mem_cons_self
  rcases htext with htext | ⟨mark, hother, htext⟩ | ⟨fill, mark, hother, htext⟩
  · exact absurd (htext ▸ hthere) hrest
  · rw [htext] at hthere
    rcases List.mem_cons.1 hthere with rfl | hmem
    · exact absurd hother hmark
    · exact absurd hmem hrest
  · match front, htext with
    | [], htext =>
      obtain ⟨rfl, rfl⟩ := List.cons.inj htext
      exact ⟨rfl, mark, rest, hother, rfl⟩
    | _ :: front, htext =>
      have htail : front ++ c :: back = mark :: rest := (List.cons.inj htext).2
      have hmem : c ∈ mark :: rest := htail ▸ List.mem_append_right _ List.mem_cons_self
      rcases List.mem_cons.1 hmem with rfl | hmem
      · exact absurd hother hmark
      · exact absurd hmem hrest

end StorageTypes.ImportPath
