import Mathlib.Algebra.Group.Nat.Defs
import Mathlib.Data.List.Infix
import StorageTypes.Text.Quoted

namespace StorageTypes.Text

variable {shown : Char → Bool} {quote other c mark : Char} {text a b : List Char}

def hexDigitValue (c : Char) : Nat :=
  if c.toNat < 58 then c.toNat - 48 else c.toNat - 87

def hexValue (digits : List Char) : Nat :=
  digits.foldl (fun n c => n * 16 + hexDigitValue c) 0

theorem hexDigitValue_hexDigit : ∀ n < 16, hexDigitValue (hexDigit n) = n := by
  decide

theorem length_hexDigits (count n : Nat) : (hexDigits count n).length = count := by
  induction count generalizing n with
  | zero => rfl
  | succ count ih => rw [hexDigits, List.length_append, ih, List.length_singleton]

theorem hexValue_hexDigits (count n : Nat) : hexValue (hexDigits count n) = n % 16 ^ count := by
  induction count generalizing n with
  | zero => rw [hexDigits, Nat.pow_zero, Nat.mod_one]; rfl
  | succ count ih =>
    have hlast := hexDigitValue_hexDigit (n % 16) (Nat.mod_lt n (by decide))
    have hfirst : (hexDigits count (n / 16)).foldl (fun n c => n * 16 + hexDigitValue c) 0
        = n / 16 % 16 ^ count := ih (n / 16)
    rw [hexValue, hexDigits, List.foldl_append, hfirst, List.foldl_cons, List.foldl_nil, hlast,
      Nat.pow_succ, Nat.mul_comm (16 ^ count), Nat.mod_mul]
    omega

theorem exists_of_mem_hexDigits {count n : Nat} (h : c ∈ hexDigits count n) :
    ∃ digit < 16, c = hexDigit digit := by
  induction count generalizing n with
  | zero => cases h
  | succ count ih =>
    rcases List.mem_append.1 h with hfirst | hlast
    · exact ih hfirst
    · exact ⟨n % 16, Nat.mod_lt n (by decide), List.mem_singleton.1 hlast⟩

def IsQuote (c : Char) : Prop :=
  c = '\'' ∨ c = '"'

theorem isQuote_quoteFor (text : List Char) : IsQuote (quoteFor text) := by
  rw [quoteFor]
  split
  · exact .inr rfl
  · exact .inl rfl

theorem not_isQuote_hexDigit : ∀ n < 16, ¬(hexDigit n = '\'' ∨ hexDigit n = '"') := by
  decide

theorem not_isQuote_of_mem_digits {code : Char} {count n : Nat} (hcode : ¬IsQuote code)
    (h : mark ∈ ['\\', code] ++ hexDigits count n) : ¬IsQuote mark := by
  have hslash : ¬IsQuote '\\' := not_or.2 (by decide)
  rcases List.mem_append.1 h with hcodes | hdigits
  · simp only [List.mem_cons, List.not_mem_nil, or_false] at hcodes
    rcases hcodes with rfl | rfl
    · exact hslash
    · exact hcode
  · obtain ⟨digit, hdigit, rfl⟩ := exists_of_mem_hexDigits hdigits
    exact not_isQuote_hexDigit digit hdigit

theorem not_isQuote_of_mem_escape (h : mark ∈ escapeByPoint c) : ¬IsQuote mark := by
  simp only [escapeByPoint] at h
  split at h
  · exact not_isQuote_of_mem_digits (not_or.2 (by decide)) h
  split at h
  · exact not_isQuote_of_mem_digits (not_or.2 (by decide)) h
  · exact not_isQuote_of_mem_digits (not_or.2 (by decide)) h

def escapeWidth? (code : Char) : Option Nat :=
  if code = 'x' then some 2 else if code = 'u' then some 4 else if code = 'U' then some 8 else none

def unescaped (code : Char) : Char :=
  if code = 'n' then '\n' else if code = 'r' then '\r' else if code = 't' then '\t' else code

def readChar : List Char → Option (Char × List Char)
  | '\\' :: code :: rest =>
    match escapeWidth? code with
    | some width => some (Char.ofNat (hexValue (rest.take width)), rest.drop width)
    | none => some (unescaped code, rest)
  | c :: rest => some (c, rest)
  | [] => none

theorem readChar_plain (hc : c ≠ '\\') (rest : List Char) :
    readChar (c :: rest) = some (c, rest) := by
  unfold readChar
  split
  · next h => exact absurd (List.cons.inj h).1 hc
  · next h => cases h; rfl
  · next h => cases h

theorem readChar_short {code : Char} (hcode : escapeWidth? code = none) (rest : List Char) :
    readChar ('\\' :: code :: rest) = some (unescaped code, rest) := by
  simp only [readChar, hcode]

theorem readChar_digits {code : Char} {width : Nat} (hcode : escapeWidth? code = some width)
    (hc : c.toNat < 16 ^ width) (rest : List Char) :
    readChar (['\\', code] ++ hexDigits width c.toNat ++ rest) = some (c, rest) := by
  have hlength := length_hexDigits width c.toNat
  have hvalue : hexValue (hexDigits width c.toNat) = c.toNat := by
    rw [hexValue_hexDigits, Nat.mod_eq_of_lt hc]
  simp only [List.cons_append, List.nil_append, readChar, hcode]
  rw [List.take_left' hlength, List.drop_left' hlength, hvalue, Char.ofNat_toNat]

theorem readChar_escapeByPoint (c : Char) (rest : List Char) :
    readChar (escapeByPoint c ++ rest) = some (c, rest) := by
  have hc : c.toNat < 0x110000 := by
    rcases c.valid with h | h
    · exact Nat.lt_trans h (by decide)
    · exact h.2
  rw [escapeByPoint]
  split
  next hsmall => exact readChar_digits rfl hsmall rest
  split
  next hmedium => exact readChar_digits rfl hmedium rest
  · exact readChar_digits rfl (Nat.lt_trans hc (by decide)) rest

theorem readChar_quotedChar (hquote : IsQuote quote) (c : Char) (rest : List Char) :
    readChar (quotedChar shown quote c ++ rest) = some (c, rest) := by
  simp only [quotedChar]
  split
  next hc =>
    simp only [Bool.or_eq_true, decide_eq_true_eq] at hc
    have hshort : escapeWidth? c = none ∧ unescaped c = c := by
      rcases hc with rfl | rfl
      · rcases hquote with rfl | rfl <;> exact ⟨rfl, rfl⟩
      · exact ⟨rfl, rfl⟩
    rw [List.cons_append, List.cons_append, readChar_short hshort.1, hshort.2, List.nil_append]
  next hc =>
  simp only [Bool.or_eq_true, decide_eq_true_eq, not_or] at hc
  split
  next hbreak => exact hbreak ▸ readChar_short rfl rest
  split
  next hreturn => exact hreturn ▸ readChar_short rfl rest
  split
  next htab => exact htab ▸ readChar_short rfl rest
  split
  · exact readChar_plain hc.2 rest
  · exact readChar_escapeByPoint c rest

theorem quotedChar_ne_nil (hquote : IsQuote quote) : quotedChar shown quote c ≠ [] := by
  intro h
  have hread : readChar (quotedChar shown quote c ++ []) = some (c, []) :=
    readChar_quotedChar hquote c []
  rw [h] at hread
  cases hread

theorem quotedChar_append_inj {d : Char} {rest tail : List Char} (hquote : IsQuote quote)
    (hother : IsQuote other)
    (h : quotedChar shown quote c ++ rest = quotedChar shown other d ++ tail) :
    c = d ∧ rest = tail := by
  have hread : readChar (quotedChar shown quote c ++ rest) = some (c, rest) :=
    readChar_quotedChar hquote c rest
  rw [h, readChar_quotedChar hother d tail] at hread
  cases hread
  exact ⟨rfl, rfl⟩

/-- A quote ends what stands for one character. -/
theorem eq_nil_of_quotedChar {front back : List Char} (hmark : IsQuote mark)
    (h : quotedChar shown quote c = front ++ mark :: back) : back = [] := by
  have hslash : ¬IsQuote '\\' := not_or.2 (by decide)
  have hpair {code : Char} (h : ['\\', code] = front ++ mark :: back) : back = [] := by
    match front, h with
    | [], h =>
      obtain ⟨rfl, -⟩ := List.cons.inj h
      exact absurd hmark hslash
    | [_], h => exact (List.cons.inj (List.cons.inj h).2).2.symm
    | _ :: _ :: front, h => exact absurd (congrArg List.length h) (by simp)
  simp only [quotedChar] at h
  split at h
  · exact hpair h
  split at h
  · exact hpair h
  split at h
  · exact hpair h
  split at h
  · exact hpair h
  split at h
  · match front, h with
    | [], h => exact (List.cons.inj h).2.symm
    | _ :: front, h => exact absurd (congrArg List.length h) (by simp)
  · have hmem : mark ∈ escapeByPoint c := by
      rw [h]
      exact List.mem_append_right _ List.mem_cons_self
    exact absurd hmark (not_isQuote_of_mem_escape hmem)

theorem after_quote {front back : List Char} (hmark : IsQuote mark)
    (h : text.flatMap (quotedChar shown quote) ++ [quote] = front ++ mark :: back) :
    back = [] ∨ ∃ rest, rest <:+ text ∧ back = rest.flatMap (quotedChar shown quote) ++ [quote] := by
  induction text generalizing front with
  | nil =>
    match front, h with
    | [], h => exact .inl (List.cons.inj h).2.symm
    | _ :: front, h => exact absurd (congrArg List.length h) (by simp)
  | cons c text ih =>
    have hlonger {rest : List Char} (h : rest <:+ text) : rest <:+ c :: text :=
      h.trans (List.suffix_cons c text)
    rw [List.flatMap_cons, List.append_assoc, List.append_eq_append_iff] at h
    rcases h with ⟨skipped, -, hrest⟩ | ⟨part, hpart, hrest⟩
    · rcases ih hrest with hback | ⟨rest, hsuffix, hback⟩
      · exact .inl hback
      · exact .inr ⟨rest, hlonger hsuffix, hback⟩
    · cases part with
      | nil =>
        have hstart : text.flatMap (quotedChar shown quote) ++ [quote] = [] ++ mark :: back :=
          hrest.symm
        rcases ih hstart with hback | ⟨rest, hsuffix, hback⟩
        · exact .inl hback
        · exact .inr ⟨rest, hlonger hsuffix, hback⟩
      | cons first part =>
        obtain ⟨rfl, hback⟩ := List.cons.inj hrest
        rw [eq_nil_of_quotedChar hmark hpart] at hback
        exact .inr ⟨text, List.suffix_cons c text, hback⟩

/-- What stands for the characters of two texts and goes on from there tells that one text begins with
the other. -/
theorem prefix_of_flatMap_quotedChar {back : List Char} (hquote : IsQuote quote) (hother : IsQuote other)
    (h : a.flatMap (quotedChar shown quote) ++ mark :: back
      = b.flatMap (quotedChar shown other) ++ [other]) : a <+: b := by
  induction a generalizing b with
  | nil => exact List.nil_prefix
  | cons c a ih =>
    cases b with
    | nil =>
      have hlength := congrArg List.length h
      have hfirst : quotedChar shown quote c ≠ [] := quotedChar_ne_nil hquote
      have hpos := List.length_pos_of_ne_nil hfirst
      simp only [List.flatMap_cons, List.flatMap_nil, List.length_append, List.length_cons,
        List.length_nil] at hlength
      omega
    | cons d b =>
      rw [List.flatMap_cons, List.flatMap_cons, List.append_assoc, List.append_assoc] at h
      obtain ⟨rfl, hrest⟩ := quotedChar_append_inj hquote hother h
      exact List.cons_prefix_cons.2 ⟨rfl, ih hrest⟩

/-- A text in quotes stands in another one only where the text stands in the other text. -/
theorem infix_of_quotedBy (h : quotedBy shown a <:+: quotedBy shown b) : a <:+: b := by
  obtain ⟨front, back, h⟩ := h
  simp only [quotedBy, List.append_assoc, List.cons_append] at h
  have hquote := isQuote_quoteFor a
  have hother := isQuote_quoteFor b
  have hinner {rest : List Char} (hrest : rest <:+ b)
      (h : a.flatMap (quotedChar shown (quoteFor a)) ++ quoteFor a :: back
        = rest.flatMap (quotedChar shown (quoteFor b)) ++ [quoteFor b]) : a <:+: b :=
    (prefix_of_flatMap_quotedChar hquote hother h).isInfix.trans hrest.isInfix
  cases front with
  | nil => exact hinner (List.suffix_refl b) (List.cons.inj h).2
  | cons first front =>
    rcases after_quote hquote (List.cons.inj h).2.symm with hnil | ⟨rest, hrest, hback⟩
    · exact absurd hnil (by simp)
    · exact hinner hrest hback

theorem quotedChar_of_not_isQuote (hc : ¬IsQuote c) (hquote : IsQuote quote) (hother : IsQuote other) :
    quotedChar shown quote c = quotedChar shown other c := by
  have hne {quote : Char} (hquote : IsQuote quote) : c ≠ quote := by
    rintro rfl
    exact hc hquote
  simp only [quotedChar, hne hquote, hne hother]

theorem length_quotedChar_of_isQuote (hc : IsQuote c) (hshown : shown c = true) :
    (quotedChar shown quote c).length = if c = quote then 2 else 1 := by
  rw [quotedChar]
  by_cases hsame : c = quote
  · simp [hsame]
  · rcases hc with rfl | rfl <;> simp [hsame, hshown]

theorem mem_of_quoteFor (hmem : quoteFor a ∈ a) : quoteFor a = '\'' ∧ '"' ∈ a := by
  rw [quoteFor] at hmem ⊢
  split at hmem
  next hdouble =>
    simp only [Bool.and_eq_true, List.contains_iff_mem, Bool.not_eq_true',
      ← Bool.not_eq_true] at hdouble
    exact absurd hmem hdouble.2
  next hsingle =>
    simp only [Bool.and_eq_true, List.contains_iff_mem, Bool.not_eq_true',
      ← Bool.not_eq_true, not_and, not_not] at hsingle
    exact ⟨if_neg (by simpa using hsingle), hsingle hmem⟩

theorem length_quotedChar_le (hsingle : shown '\'' = true) (hdouble : shown '"' = true)
    (hab : a <:+: b) (hc : c ∈ a) :
    (quotedChar shown (quoteFor a) c).length ≤ (quotedChar shown (quoteFor b) c).length := by
  by_cases hquote : IsQuote c
  · have hshown : shown c = true := by
      rcases hquote with rfl | rfl
      · exact hsingle
      · exact hdouble
    rw [length_quotedChar_of_isQuote hquote hshown, length_quotedChar_of_isQuote hquote hshown]
    by_cases hsame : c = quoteFor a
    · obtain ⟨hfor, hmem⟩ := mem_of_quoteFor (hsame ▸ hc)
      have hother : quoteFor b = '\'' := by
        have hmem' : b.contains '"' = true := List.contains_iff_mem.2 (hab.mem hmem)
        rw [quoteFor, hmem', Bool.not_true, Bool.and_false, if_neg Bool.false_ne_true]
      rw [if_pos hsame, if_pos (hsame.trans (hfor.trans hother.symm))]
    · rw [if_neg hsame]
      split <;> decide
  · rw [quotedChar_of_not_isQuote hquote (isQuote_quoteFor a) (isQuote_quoteFor b)]

theorem length_flatMap_le {f g : Char → List Char} (h : ∀ c ∈ text, (f c).length ≤ (g c).length) :
    (text.flatMap f).length ≤ (text.flatMap g).length := by
  induction text with
  | nil => exact Nat.le_refl _
  | cons c text ih =>
    obtain ⟨hc, hrest⟩ := List.forall_mem_cons.1 h
    rw [List.flatMap_cons, List.flatMap_cons, List.length_append, List.length_append]
    exact Nat.add_le_add hc (ih hrest)

theorem length_quotedBy (shown : Char → Bool) (text : List Char) :
    (quotedBy shown text).length = (text.flatMap (quotedChar shown (quoteFor text))).length + 2 := by
  simp only [quotedBy, List.length_append, List.length_cons, List.length_nil]

theorem length_quotedBy_le (hsingle : shown '\'' = true) (hdouble : shown '"' = true)
    (hab : a <:+: b) : (quotedBy shown a).length ≤ (quotedBy shown b).length := by
  have hfewer : (a.flatMap (quotedChar shown (quoteFor a))).length
      ≤ (a.flatMap (quotedChar shown (quoteFor b))).length :=
    length_flatMap_le fun c hc => length_quotedChar_le hsingle hdouble hab hc
  have hpart : (a.flatMap (quotedChar shown (quoteFor b))).length
      ≤ (b.flatMap (quotedChar shown (quoteFor b))).length := by
    obtain ⟨front, back, rfl⟩ := hab
    simp only [List.flatMap_append, List.length_append]
    omega
  rw [length_quotedBy, length_quotedBy]
  omega

end StorageTypes.Text
