import Mathlib.Data.List.TakeWhile
import StorageTypes.Generation.TypeMapping
import StorageTypes.Proofs.Definitions
import StorageTypes.Proofs.Dictionary

namespace StorageTypes

namespace Text

def AllBlank (text : List Char) : Prop :=
  ∀ c ∈ text, isBlank c = true

/-- Texts that are not empty and neither begin nor end with a blank. -/
structure Trimmed (text : List Char) : Prop where
  nonempty : text ≠ []
  start : ∀ c, text.head? = some c → isBlank c = false
  stop : ∀ c, text.getLast? = some c → isBlank c = false

variable {text core front back before after : List Char} {mark c : Char}

theorem not_blank_of_head?_dropWhile (h : (text.dropWhile isBlank).head? = some c) :
    isBlank c = false := by
  have hstop := List.head?_dropWhile_not isBlank text
  rwa [h] at hstop

theorem dropWhile_of_not_blank (h : ∀ c, text.head? = some c → isBlank c = false) :
    text.dropWhile isBlank = text := by
  cases text with
  | nil => rfl
  | cons c rest => exact List.dropWhile_cons_of_neg (by simp [h c rfl])

theorem dropBlanksRight_of_not_blank (h : ∀ c, text.getLast? = some c → isBlank c = false) :
    dropBlanksRight text = text := by
  have hreverse : text.reverse.dropWhile isBlank = text.reverse := by
    apply dropWhile_of_not_blank
    simpa using h
  rw [dropBlanksRight, hreverse, List.reverse_reverse]

theorem dropBlanksRight_append (text : List Char) (h : AllBlank back) :
    dropBlanksRight (text ++ back) = dropBlanksRight text := by
  have hback : ∀ c ∈ back.reverse, isBlank c = true := by
    intro c hc
    exact h c (List.mem_reverse.1 hc)
  rw [dropBlanksRight, List.reverse_append, List.dropWhile_append_of_pos hback, dropBlanksRight]

theorem strip_surrounded (hfront : AllBlank front) (hback : AllBlank back) (h : Trimmed core) :
    strip (front ++ core ++ back) = core := by
  have hstart : ∀ c, (core ++ back).head? = some c → isBlank c = false := by
    intro c hc
    rw [List.head?_append_of_ne_nil _ h.nonempty] at hc
    exact h.start c hc
  rw [strip, List.append_assoc, List.dropWhile_append_of_pos hfront, dropWhile_of_not_blank hstart,
    dropBlanksRight_append _ hback, dropBlanksRight_of_not_blank h.stop]

theorem exists_dropBlanksRight (text : List Char) :
    ∃ back, AllBlank back ∧ text = dropBlanksRight text ++ back := by
  refine ⟨(text.reverse.takeWhile isBlank).reverse, ?_, ?_⟩
  · intro c hc
    exact List.mem_takeWhile_imp (List.mem_reverse.1 hc)
  · rw [dropBlanksRight, ← List.reverse_append, List.takeWhile_append_dropWhile,
      List.reverse_reverse]

theorem exists_strip (text : List Char) :
    ∃ front back, AllBlank front ∧ AllBlank back ∧ text = front ++ strip text ++ back := by
  obtain ⟨back, hback, hrest⟩ := exists_dropBlanksRight (text.dropWhile isBlank)
  refine ⟨text.takeWhile isBlank, back, fun c hc => List.mem_takeWhile_imp hc, hback, ?_⟩
  rw [strip, List.append_assoc, ← hrest, List.takeWhile_append_dropWhile]

theorem trimmed_strip (h : strip text ≠ []) : Trimmed (strip text) := by
  constructor
  case nonempty => exact h
  case start =>
    intro c hc
    obtain ⟨back, -, hrest⟩ := exists_dropBlanksRight (text.dropWhile isBlank)
    have hsame : (text.dropWhile isBlank).head? = (strip text).head? := by
      rw [hrest]
      exact List.head?_append_of_ne_nil _ h
    exact not_blank_of_head?_dropWhile (hsame.trans hc)
  case stop =>
    intro c hc
    rw [strip, dropBlanksRight, List.getLast?_reverse] at hc
    exact not_blank_of_head?_dropWhile hc

theorem strip_eq_iff (h : core ≠ []) :
    strip text = core
      ↔ Trimmed core
        ∧ ∃ front back, AllBlank front ∧ AllBlank back ∧ text = front ++ core ++ back := by
  constructor
  · intro hstrip
    subst hstrip
    exact ⟨trimmed_strip h, exists_strip text⟩
  · intro hcore
    obtain ⟨htrimmed, front, back, hfront, hback, rfl⟩ := hcore
    exact strip_surrounded hfront hback htrimmed

theorem bne_of_not_mem (h : mark ∉ before) : ∀ c ∈ before, (c != mark) = true := by
  intro c hc
  exact bne_iff_ne.2 fun hsame => h (hsame ▸ hc)

theorem takeWhile_before (h : mark ∉ before) :
    (before ++ mark :: after).takeWhile (· != mark) = before := by
  rw [List.takeWhile_append_of_pos (bne_of_not_mem h), List.takeWhile_cons_of_neg (by simp),
    List.append_nil]

theorem dropWhile_before (h : mark ∉ before) :
    (before ++ mark :: after).dropWhile (· != mark) = mark :: after := by
  rw [List.dropWhile_append_of_pos (bne_of_not_mem h), List.dropWhile_cons_of_neg (by simp)]

theorem split_of_dropWhile (h : text.dropWhile (· != mark) = c :: after) :
    text = text.takeWhile (· != mark) ++ mark :: after := by
  have hstop := List.head?_dropWhile_not (· != mark) text
  rw [h, List.head?_cons] at hstop
  have hmark : c = mark := by simpa using hstop
  rw [← hmark, ← h, hmark, List.takeWhile_append_dropWhile]

end Text

namespace TypeMapping

/-- A spec for the type of a kind: a kind, an equals sign and a type, with blanks around kind and type.
Only the type may have equals signs. -/
structure Spells (spec kind type : String) : Prop where
  parts : ∃ w₁ w₂ w₃ w₄ : String, (∀ w ∈ [w₁, w₂, w₃, w₄], Text.AllBlank w.toList)
    ∧ spec = w₁ ++ kind ++ w₂ ++ "=" ++ w₃ ++ type ++ w₄
  kindTrimmed : Text.Trimmed kind.toList
  typeTrimmed : Text.Trimmed type.toList
  unparted : '=' ∉ kind.toList

variable {spec kind type : String} {specs : List String} {overrides : Dictionary String}

theorem parseChars_eq_some_iff {spec kind type : List Char} :
    parseChars spec = some (kind, type)
      ↔ ∃ before after, spec = before ++ '=' :: after ∧ '=' ∉ before
        ∧ (Text.strip before = kind ∧ kind ≠ []) ∧ Text.strip after = type ∧ type ≠ [] := by
  constructor
  · intro h
    simp only [parseChars] at h
    split at h
    · cases h
    next after hafter =>
    split at h
    · cases h
    next hgiven =>
    cases h
    simp only [Bool.or_eq_true, List.isEmpty_iff, not_or] at hgiven
    have hbefore : '=' ∉ spec.takeWhile (· != '=') := by
      intro hmem
      have himp := List.mem_takeWhile_imp hmem
      simp at himp
    exact ⟨_, after, Text.split_of_dropWhile hafter, hbefore, ⟨rfl, hgiven.1⟩, rfl, hgiven.2⟩
  · intro h
    obtain ⟨before, after, rfl, hbefore, ⟨rfl, hkind⟩, rfl, htype⟩ := h
    simp [parseChars, Text.takeWhile_before hbefore, Text.dropWhile_before hbefore, hkind, htype]

theorem not_mem_of_allBlank {text : List Char} (h : Text.AllBlank text) : '=' ∉ text := by
  intro hmem
  exact absurd (h _ hmem) (by decide)

theorem Spells.parseChars (h : Spells spec kind type) :
    TypeMapping.parseChars spec.toList = some (kind.toList, type.toList) := by
  obtain ⟨w₁, w₂, w₃, w₄, hblank, rfl⟩ := h.parts
  simp only [List.forall_mem_cons] at hblank
  obtain ⟨h₁, h₂, h₃, h₄, -⟩ := hblank
  apply parseChars_eq_some_iff.2
  refine ⟨w₁.toList ++ kind.toList ++ w₂.toList, w₃.toList ++ type.toList ++ w₄.toList, ?_, ?_,
    ⟨?_, h.kindTrimmed.nonempty⟩, ?_, h.typeTrimmed.nonempty⟩
  · simp [String.toList_append]
  · simp only [List.mem_append, not_or]
    exact ⟨⟨not_mem_of_allBlank h₁, h.unparted⟩, not_mem_of_allBlank h₂⟩
  · exact Text.strip_surrounded h₁ h₂ h.kindTrimmed
  · exact Text.strip_surrounded h₃ h₄ h.typeTrimmed

theorem spells_of_parseChars
    (h : parseChars spec.toList = some (kind.toList, type.toList)) : Spells spec kind type := by
  obtain ⟨before, after, hspec, hbefore, ⟨hkind, hkindGiven⟩, htype, htypeGiven⟩ :=
    parseChars_eq_some_iff.1 h
  obtain ⟨hkindTrimmed, w₁, w₂, h₁, h₂, rfl⟩ := (Text.strip_eq_iff hkindGiven).1 hkind
  obtain ⟨htypeTrimmed, w₃, w₄, h₃, h₄, rfl⟩ := (Text.strip_eq_iff htypeGiven).1 htype
  simp only [List.mem_append, not_or] at hbefore
  refine ⟨⟨String.ofList w₁, String.ofList w₂, String.ofList w₃, String.ofList w₄, ?_, ?_⟩,
    hkindTrimmed, htypeTrimmed, hbefore.1.2⟩
  · simp only [List.forall_mem_cons, String.toList_ofList]
    exact ⟨h₁, h₂, h₃, h₄, fun _ hw => absurd hw List.not_mem_nil⟩
  · apply String.toList_injective
    rw [hspec]
    simp [String.toList_append]

theorem parse_eq_ok_iff : parse spec = .ok (kind, type) ↔ Spells spec kind type := by
  constructor
  · intro h
    simp only [parse] at h
    split at h
    · next hread =>
      cases h
      apply spells_of_parseChars
      simpa using hread
    · cases h
  · intro h
    simp only [parse, h.parseChars, String.ofList_toList]

theorem parse_eq_error_iff {fault : BadTypeMapping} :
    parse spec = .error fault ↔ fault = ⟨spec⟩ ∧ ¬∃ kind type, Spells spec kind type := by
  simp only [← parse_eq_ok_iff, parse]
  cases parseChars spec.toList with
  | none => simp [eq_comm]
  | some pair => simp

theorem parsePairs_eq_eachOf (specs : List String) : parsePairs specs = eachOf parse specs := by
  induction specs with
  | nil => rfl
  | cons spec rest ih =>
    simp only [parsePairs, eachOf, ih]
    cases parse spec <;> rfl

/-- Overrides that specs stand for: the kinds in the order in which they are first named, each with the
type that is named for it last. -/
structure Collects (specs : List String) (overrides : Dictionary String) : Prop where
  named : ∃ pairs : List (String × String),
    List.Forall₂ (fun spec pair => Spells spec pair.1 pair.2) specs pairs
      ∧ Dictionary.names overrides = firsts (pairs.map (·.1))
      ∧ ∀ kind type, Dictionary.find? kind overrides = some type
        ↔ ∃ before after, pairs = before ++ (kind, type) :: after ∧ kind ∉ after.map (·.1)

theorem parseAll_eq_ok_iff : parseAll specs = .ok overrides ↔ Collects specs overrides := by
  have hspelled (pairs : List (String × String)) :
      parsePairs specs = .ok pairs
        ↔ List.Forall₂ (fun spec pair => Spells spec pair.1 pair.2) specs pairs := by
    simp only [parsePairs_eq_eachOf, eachOf_eq_ok_iff, ← parse_eq_ok_iff]
  have hlast (pairs : List (String × String)) (kind type : String) :
      Dictionary.find? kind (Dictionary.ofList pairs) = some type
        ↔ ∃ before after, pairs = before ++ (kind, type) :: after ∧ kind ∉ after.map (·.1) := by
    rw [Dictionary.find?_ofList]
    exact Dictionary.find?_reverse_eq_some_iff
  rw [parseAll, map_eq_ok_iff]
  constructor
  · intro h
    obtain ⟨pairs, hpairs, rfl⟩ := h
    exact ⟨pairs, (hspelled pairs).1 hpairs, Dictionary.names_ofList pairs, hlast pairs⟩
  · intro h
    obtain ⟨pairs, hpairs, hnames, hfound⟩ := h.named
    refine ⟨pairs, (hspelled pairs).2 hpairs, ?_⟩
    apply Dictionary.eq_of_find?
    · exact hnames ▸ nodup_firsts _
    · exact (Dictionary.names_ofList pairs).trans hnames.symm
    · intro kind
      apply Option.ext
      intro type
      rw [hlast, hfound]

theorem parseAll_eq_error_iff {fault : BadTypeMapping} :
    parseAll specs = .error fault
      ↔ ∃ before spec after, specs = before ++ spec :: after
        ∧ (∀ earlier ∈ before, ∃ kind type, Spells earlier kind type)
        ∧ (¬∃ kind type, Spells spec kind type) ∧ fault = ⟨spec⟩ := by
  rw [parseAll, map_eq_error_iff, parsePairs_eq_eachOf, eachOf_eq_error_iff]
  simp only [Prod.exists, parse_eq_ok_iff, parse_eq_error_iff, and_comm (a := fault = _)]

end TypeMapping

/-- How overrides are read, one by one and as a list. -/
structure TypeMapping.ReadsSpelled (specs : List String) : Prop where
  one : ∀ spec kind type, parse spec = .ok (kind, type) ↔ Spells spec kind type
  refused : ∀ spec fault, parse spec = .error fault
    ↔ fault = ⟨spec⟩ ∧ ¬∃ kind type, Spells spec kind type
  accepted : (∃ overrides, parseAll specs = .ok overrides)
    ↔ ∀ spec ∈ specs, ∃ kind type, Spells spec kind type
  collected : ∀ overrides, parseAll specs = .ok overrides ↔ Collects specs overrides
  /-- The first spec that spells nothing is the one that is reported. -/
  reported : ∀ fault, parseAll specs = .error fault
    ↔ ∃ before spec after, specs = before ++ spec :: after
      ∧ (∀ earlier ∈ before, ∃ kind type, Spells earlier kind type)
      ∧ (¬∃ kind type, Spells spec kind type) ∧ fault = ⟨spec⟩

/-- Overrides are read exactly as they are spelled, up to the first that spells nothing. -/
theorem overrides_spelled (specs : List String) : TypeMapping.ReadsSpelled specs := by
  constructor
  case one => exact fun _ _ _ => TypeMapping.parse_eq_ok_iff
  case refused => exact fun _ _ => TypeMapping.parse_eq_error_iff
  case accepted =>
    simp only [TypeMapping.parseAll, map_eq_ok_iff, TypeMapping.parsePairs_eq_eachOf,
      ← TypeMapping.parse_eq_ok_iff]
    rw [exists_comm]
    simp only [exists_and_left, exists_eq', and_true, exists_eachOf_iff, Prod.exists]
  case collected => exact fun _ => TypeMapping.parseAll_eq_ok_iff
  case reported => exact fun _ => TypeMapping.parseAll_eq_error_iff

end StorageTypes
