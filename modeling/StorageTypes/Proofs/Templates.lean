import StorageTypes.ImportPath.Template
import StorageTypes.Proofs.Definitions

namespace StorageTypes.ImportPath

/-- A part of a template: a character that stands for itself, or a placeholder. -/
inductive Part where
  | mark (c : Char)
  | hole (placeholder : Placeholder)
  deriving DecidableEq, Repr

def Part.textOf [Host] (expandLayout : List Char → Except Fault (List Char))
    (collection : List Char) : Part → Except Fault (List Char)
  | .mark c => .ok [c]
  | .hole placeholder => placeholder.textOf expandLayout collection

/-- The parts that a template consists of. A brace that stands for itself is written twice. -/
inductive Consists : List Char → List Part → Prop where
  | nil : Consists [] []
  | plain {c : Char} {rest : List Char} {parts : List Part} (hc : isBrace c = false)
      (h : Consists rest parts) : Consists (c :: rest) (.mark c :: parts)
  | doubled {brace : Char} {rest : List Char} {parts : List Part} (hbrace : isBrace brace = true)
      (h : Consists rest parts) : Consists (brace :: brace :: rest) (.mark brace :: parts)
  | hole {inner rest : List Char} {placeholder : Placeholder} {parts : List Part}
      (hscan : scanPlaceholder inner = .ok (placeholder, rest)) (h : Consists rest parts) :
      Consists ('\x7b' :: inner) (.hole placeholder :: parts)

variable {expandLayout : List Char → Except Fault (List Char)} {collection template path : List Char}
  {parts : List Part} {placeholder : Placeholder} {inner rest : List Char}

theorem scanName_append {bracket : Bool} {name : List Char} {mark : Char}
    (h : scanName bracket inner = .ok (name, mark, rest)) : inner = name ++ mark :: rest := by
  induction inner generalizing bracket name with
  | nil => cases h
  | cons c inner ih =>
    simp only [scanName] at h
    split at h
    · cases h
    split at h
    · cases h
      rfl
    · obtain ⟨⟨name', mark', rest'⟩, hscan, hsame⟩ := map_eq_ok_iff.1 h
      cases hsame
      rw [ih hscan, List.cons_append]

theorem scanLayout_append {depth : Nat} {layout : List Char}
    (h : scanLayout depth inner = .ok (layout, rest)) : inner = layout ++ '\x7d' :: rest := by
  induction inner generalizing depth layout with
  | nil => cases h
  | cons c inner ih =>
    simp only [scanLayout] at h
    split at h
    next hclose =>
      cases h
      simp only [Bool.and_eq_true, beq_iff_eq] at hclose
      rw [hclose.1, List.nil_append]
    · obtain ⟨⟨layout', rest'⟩, hscan, hsame⟩ := map_eq_ok_iff.1 h
      cases hsame
      rw [ih hscan, List.cons_append]

theorem scanLayout_shorter {depth : Nat} {layout : List Char}
    (h : scanLayout depth inner = .ok (layout, rest)) : rest.length < inner.length := by
  have hlength := congrArg List.length (scanLayout_append h)
  simp only [List.length_append, List.length_cons] at hlength
  omega

theorem scanPlaceholder_shorter (h : scanPlaceholder inner = .ok (placeholder, rest)) :
    rest.length < inner.length := by
  obtain ⟨⟨name, mark, after⟩, hname, h⟩ := bind_eq_ok_iff.1 h
  have hinner := congrArg List.length (scanName_append hname)
  simp only [List.length_append, List.length_cons] at hinner
  have hafter : rest.length ≤ after.length := by
    dsimp only at h
    split at h
    · cases h
      exact Nat.le_refl _
    split at h
    · split at h
      · cases h
      · cases h
      next code next others =>
      split at h
      · cases h
        simp only [List.length_cons]
        omega
      split at h
      · obtain ⟨⟨layout, rest'⟩, hscan, hsame⟩ := bind_eq_ok_iff.1 h
        cases hsame
        have hlayout := scanLayout_shorter hscan
        simp only [List.length_cons]
        omega
      · cases h
    · obtain ⟨⟨layout, rest'⟩, hscan, hsame⟩ := bind_eq_ok_iff.1 h
      cases hsame
      exact Nat.le_of_lt (scanLayout_shorter hscan)
  omega

variable {c : Char}

theorem consists_nil_iff : Consists [] parts ↔ parts = [] := by
  constructor
  · intro h
    cases h
    rfl
  · rintro rfl
    exact .nil

theorem consists_plain_iff (hc : isBrace c = false) :
    Consists (c :: rest) parts ↔ ∃ others, parts = .mark c :: others ∧ Consists rest others := by
  constructor
  · intro h
    cases h with
    | plain _ h => exact ⟨_, rfl, h⟩
    | doubled hbrace _ => exact absurd (hc.symm.trans hbrace) Bool.false_ne_true
    | hole _ _ => cases hc
  · rintro ⟨others, rfl, h⟩
    exact .plain hc h

theorem consists_doubled_iff (hc : isBrace c = true) :
    Consists (c :: c :: rest) parts ↔ ∃ others, parts = .mark c :: others ∧ Consists rest others := by
  constructor
  · intro h
    cases h with
    | plain hplain _ => exact absurd (hplain.symm.trans hc) Bool.false_ne_true
    | doubled _ h => exact ⟨_, rfl, h⟩
    | hole hscan _ => cases hscan
  · rintro ⟨others, rfl, h⟩
    exact .doubled hc h

theorem consists_hole_iff (hinner : inner.head? ≠ some '\x7b') :
    Consists ('\x7b' :: inner) parts
      ↔ ∃ placeholder rest others, scanPlaceholder inner = .ok (placeholder, rest)
        ∧ parts = .hole placeholder :: others ∧ Consists rest others := by
  constructor
  · intro h
    cases h with
    | plain hc _ => cases hc
    | doubled _ _ => exact absurd rfl hinner
    | hole hscan h => exact ⟨_, _, _, hscan, rfl, h⟩
  · rintro ⟨placeholder, rest, others, hscan, rfl, h⟩
    exact .hole hscan h

theorem not_consists_close (hinner : inner.head? ≠ some '\x7d') :
    ¬Consists ('\x7d' :: inner) parts := by
  intro h
  cases h with
  | plain hc _ => cases hc
  | doubled _ _ => exact absurd rfl hinner

/-- A template consists of its parts in one way only. -/
theorem Consists.unique {others : List Part} (h : Consists template parts)
    (hother : Consists template others) : parts = others := by
  induction h generalizing others with
  | nil => exact (consists_nil_iff.1 hother).symm
  | plain hc _ ih =>
    obtain ⟨rest, rfl, hrest⟩ := (consists_plain_iff hc).1 hother
    exact congrArg _ (ih hrest)
  | doubled hbrace _ ih =>
    obtain ⟨rest, rfl, hrest⟩ := (consists_doubled_iff hbrace).1 hother
    exact congrArg _ (ih hrest)
  | @hole inner _ _ _ hscan _ ih =>
    have hinner : inner.head? ≠ some '\x7b' := by
      intro hbrace
      obtain ⟨rest, rfl⟩ := List.head?_eq_some_iff.1 hbrace
      cases hscan
    obtain ⟨placeholder, rest, others, hscan', rfl, hrest⟩ := (consists_hole_iff hinner).1 hother
    cases hscan.symm.trans hscan'
    exact congrArg _ (ih hrest)

theorem occursIn_iff {piece text : List Char} : occursIn piece text = true ↔ piece <:+: text := by
  induction text with
  | nil => simp [occursIn]
  | cons c rest ih => simp [occursIn, ih, List.infix_cons_iff]

theorem isBrace_iff : isBrace c = true ↔ c = '\x7b' ∨ c = '\x7d' := by
  simp [isBrace]

def Placeholder.main : Placeholder := ⟨collectionName, none, []⟩

theorem scanPlaceholder_main (rest : List Char) :
    scanPlaceholder (collectionName ++ '\x7d' :: rest) = .ok (.main, rest) := rfl

def Unbraced (text : String) : Prop :=
  ∀ c ∈ text.toList, isBrace c = false

theorem length_glue (separator : List Char) (first : List Char) (others : List (List Char)) :
    (Text.glue separator (first :: others)).length
      = (first :: others).flatten.length + others.length * separator.length := by
  induction others generalizing first with
  | nil => simp [Text.glue]
  | cons next rest ih =>
    rw [Text.glue_cons _ (by simp), List.length_append, List.length_append, ih]
    simp only [List.flatten_cons, List.length_append, List.length_cons, Nat.succ_mul]
    omega

theorem eq_of_glue {first : List Char} {others : List (List Char)} {separator other : List Char}
    (hothers : others ≠ [])
    (h : Text.glue separator (first :: others) = Text.glue other (first :: others)) :
    separator = other := by
  have hlength := congrArg List.length h
  rw [length_glue, length_glue, Nat.add_left_cancel_iff,
    Nat.mul_right_inj (by simpa using hothers)] at hlength
  rw [Text.glue_cons _ hothers, Text.glue_cons _ hothers, List.append_assoc, List.append_assoc] at h
  exact (List.append_inj (List.append_cancel_left h) hlength).1

theorem infix_glue {separator : List Char} (first next : List Char) (others : List (List Char)) :
    separator <:+: Text.glue separator (first :: next :: others) :=
  ⟨first, Text.glue separator (next :: others), rfl⟩

section

variable [Host] {fuel : Nat}

theorem fill_plain (hc : isBrace c = false) : fill expandLayout collection (fuel + 1) (c :: rest)
    = (fill expandLayout collection (fuel + 1) rest).map (c :: ·) := by
  simp only [fill, List.takeWhile_cons, List.dropWhile_cons, hc, Bool.not_false, if_true]
  split
  · rfl
  · rfl
  next brace next others _ =>
    split
    · cases fill expandLayout collection fuel others <;> rfl
    split
    · rfl
    cases scanPlaceholder (next :: others) with
    | error fault => rfl
    | ok scanned =>
      cases hshown : Placeholder.textOf expandLayout collection scanned.1 with
      | error fault => simp [hshown, bind, Except.bind, Except.map]
      | ok shown =>
        cases hafter : fill expandLayout collection fuel scanned.2 with
        | error fault => simp [hshown, hafter, bind, Except.bind, Except.map]
        | ok after => simp [hshown, hafter, bind, Except.bind, Except.map, pure, Except.pure]

theorem fill_doubled (hc : isBrace c = true) :
    fill expandLayout collection (fuel + 1) (c :: c :: rest)
      = (fill expandLayout collection fuel rest).map (c :: ·) := by
  simp [fill, hc]

theorem fill_hole_eq_ok_iff (hinner : inner.head? ≠ some '\x7b') :
    fill expandLayout collection (fuel + 1) ('\x7b' :: inner) = .ok path
      ↔ ∃ placeholder rest shown after, scanPlaceholder inner = .ok (placeholder, rest)
        ∧ placeholder.textOf expandLayout collection = .ok shown
        ∧ fill expandLayout collection fuel rest = .ok after ∧ shown ++ after = path := by
  cases inner with
  | nil =>
    constructor
    · intro h
      cases h
    · rintro ⟨_, _, _, _, h, -⟩
      cases h
  | cons next others =>
    have hplain : ('\x7b' :: next :: others).takeWhile (!isBrace ·) = [] := rfl
    have hrest : ('\x7b' :: next :: others).dropWhile (!isBrace ·) = '\x7b' :: next :: others := rfl
    have hnext : ¬('\x7b' == next) = true := by
      intro hsame
      rw [List.head?_cons, ← eq_of_beq hsame] at hinner
      exact hinner rfl
    rw [fill]
    simp only [hplain, hrest, if_neg hnext]
    constructor
    · intro h
      obtain ⟨⟨placeholder, rest⟩, hscan, h⟩ := bind_eq_ok_iff.1 h
      obtain ⟨shown, hshown, h⟩ := bind_eq_ok_iff.1 h
      obtain ⟨after, hafter, h⟩ := bind_eq_ok_iff.1 h
      cases h
      exact ⟨placeholder, rest, shown, after, hscan, hshown, hafter, rfl⟩
    · rintro ⟨placeholder, rest, shown, after, hscan, hshown, hafter, rfl⟩
      refine bind_eq_ok_iff.2 ⟨(placeholder, rest), hscan, ?_⟩
      refine bind_eq_ok_iff.2 ⟨shown, hshown, ?_⟩
      exact bind_eq_ok_iff.2 ⟨after, hafter, rfl⟩

theorem fill_close (hinner : inner.head? ≠ some '\x7d') :
    fill expandLayout collection (fuel + 1) ('\x7d' :: inner) = .error .loneClose := by
  cases inner with
  | nil => rfl
  | cons next others =>
    have hplain : ('\x7d' :: next :: others).takeWhile (!isBrace ·) = [] := rfl
    have hrest : ('\x7d' :: next :: others).dropWhile (!isBrace ·) = '\x7d' :: next :: others := rfl
    have hnext : ¬('\x7d' == next) = true := by
      intro hsame
      rw [List.head?_cons, ← eq_of_beq hsame] at hinner
      exact hinner rfl
    rw [fill]
    simp only [hplain, hrest, if_neg hnext]
    rfl

def Texts (expandLayout : List Char → Except Fault (List Char)) (collection : List Char)
    (parts : List Part) (texts : List (List Char)) : Prop :=
  List.Forall₂ (fun part text => part.textOf expandLayout collection = .ok text) parts texts

/-- A template whose parts have texts that make up a path. -/
def Fills (expandLayout : List Char → Except Fault (List Char)) (collection template path : List Char) :
    Prop :=
  ∃ parts texts, Consists template parts ∧ Texts expandLayout collection parts texts
    ∧ texts.flatten = path

theorem fills_nil_iff : Fills expandLayout collection [] path ↔ [] = path := by
  constructor
  · rintro ⟨parts, texts, hparts, htexts, rfl⟩
    obtain rfl := consists_nil_iff.1 hparts
    cases htexts
    rfl
  · rintro rfl
    exact ⟨[], [], .nil, .nil, rfl⟩

theorem fills_mark_iff
    (h : ∀ parts, Consists template parts ↔ ∃ others, parts = .mark c :: others ∧ Consists rest others) :
    Fills expandLayout collection template path
      ↔ ∃ after, Fills expandLayout collection rest after ∧ c :: after = path := by
  constructor
  · rintro ⟨parts, texts, hparts, htexts, rfl⟩
    obtain ⟨others, rfl, hothers⟩ := (h parts).1 hparts
    obtain ⟨text, more, htext, hmore, rfl⟩ := List.forall₂_cons_left_iff.1 htexts
    cases htext
    exact ⟨more.flatten, ⟨others, more, hothers, hmore, rfl⟩, rfl⟩
  · rintro ⟨_, ⟨others, more, hothers, hmore, rfl⟩, rfl⟩
    exact ⟨.mark c :: others, [c] :: more, (h _).2 ⟨others, rfl, hothers⟩, .cons rfl hmore, rfl⟩

theorem fills_hole_iff (hinner : inner.head? ≠ some '\x7b') :
    Fills expandLayout collection ('\x7b' :: inner) path
      ↔ ∃ placeholder rest shown after, scanPlaceholder inner = .ok (placeholder, rest)
        ∧ placeholder.textOf expandLayout collection = .ok shown
        ∧ Fills expandLayout collection rest after ∧ shown ++ after = path := by
  constructor
  · rintro ⟨parts, texts, hparts, htexts, rfl⟩
    obtain ⟨placeholder, rest, others, hscan, rfl, hothers⟩ := (consists_hole_iff hinner).1 hparts
    obtain ⟨shown, more, hshown, hmore, rfl⟩ := List.forall₂_cons_left_iff.1 htexts
    exact ⟨placeholder, rest, shown, more.flatten, hscan, hshown, ⟨others, more, hothers, hmore, rfl⟩,
      rfl⟩
  · rintro ⟨placeholder, rest, shown, _, hscan, hshown, ⟨others, more, hothers, hmore, rfl⟩, rfl⟩
    exact ⟨.hole placeholder :: others, shown :: more, .hole hscan hothers, .cons hshown hmore, rfl⟩

theorem not_fills_close (hinner : inner.head? ≠ some '\x7d') :
    ¬Fills expandLayout collection ('\x7d' :: inner) path := by
  rintro ⟨parts, _, hparts, -⟩
  exact not_consists_close hinner hparts

/-- A template can be filled in exactly if it consists of parts that have a text each, which are then
put one after the other. -/
theorem fill_eq_ok_iff (hfuel : template.length < fuel) :
    fill expandLayout collection fuel template = .ok path
      ↔ Fills expandLayout collection template path := by
  induction hlength : template.length using Nat.strongRecOn generalizing template fuel path with
  | _ length ih =>
  subst hlength
  obtain ⟨fuel, rfl⟩ : ∃ less, fuel = less + 1 := ⟨fuel - 1, by omega⟩
  cases template with
  | nil =>
    rw [fills_nil_iff]
    exact ⟨Except.ok.inj, congrArg Except.ok⟩
  | cons c rest =>
    rw [List.length_cons] at hfuel
    have hshorter {others : List Char} (h : others.length ≤ rest.length) (fuel : Nat)
        (hfuel : others.length < fuel) (path : List Char) :
        fill expandLayout collection fuel others = .ok path
          ↔ Fills expandLayout collection others path :=
      ih others.length (Nat.lt_succ_of_le h) hfuel rfl
    cases hc : isBrace c with
    | false =>
      rw [fill_plain hc, map_eq_ok_iff, fills_mark_iff fun _ => consists_plain_iff hc]
      simp only [hshorter (Nat.le_refl _) (fuel + 1) (by omega)]
    | true =>
      by_cases hsame : rest.head? = some c
      · obtain ⟨others, rfl⟩ := List.head?_eq_some_iff.1 hsame
        rw [List.length_cons] at hfuel
        rw [fill_doubled hc, map_eq_ok_iff, fills_mark_iff fun _ => consists_doubled_iff hc]
        simp only [hshorter (Nat.le_succ _) fuel (by omega)]
      rcases isBrace_iff.1 hc with rfl | rfl
      · rw [fill_hole_eq_ok_iff hsame, fills_hole_iff hsame]
        constructor
        · rintro ⟨placeholder, others, shown, after, hscan, hshown, hafter, rfl⟩
          have hless := scanPlaceholder_shorter hscan
          rw [hshorter (by omega) fuel (by omega)] at hafter
          exact ⟨placeholder, others, shown, after, hscan, hshown, hafter, rfl⟩
        · rintro ⟨placeholder, others, shown, after, hscan, hshown, hafter, rfl⟩
          have hless := scanPlaceholder_shorter hscan
          rw [← hshorter (by omega) fuel (by omega)] at hafter
          exact ⟨placeholder, others, shown, after, hscan, hshown, hafter, rfl⟩
      · rw [fill_close hsame]
        constructor
        · intro h
          cases h
        · intro h
          exact absurd h (not_fills_close hsame)

theorem expand_eq_ok_iff {depth : Nat} :
    expand collection (depth + 1) template = .ok path
      ↔ Fills (expand collection depth) collection template path :=
  fill_eq_ok_iff (Nat.lt_succ_self _)

theorem pathOf_eq_ok_iff {template name path : String} :
    pathOf template name = .ok path
      ↔ Fills (expand name.toList 1) name.toList template.toList path.toList := by
  rw [pathOf, map_eq_ok_iff]
  simp only [expand_eq_ok_iff]
  constructor
  · rintro ⟨chars, hfills, rfl⟩
    rwa [String.toList_ofList]
  · intro hfills
    exact ⟨path.toList, hfills, String.ofList_toList⟩

theorem resolver?_eq_some_iff {template : String} {resolver : Resolver} :
    resolver? (some template) = .ok (some resolver)
      ↔ mainPlaceholder.toList <:+: template.toList ∧ pathOf template = resolver := by
  rw [← occursIn_iff, resolver?]
  split
  next hempty =>
    rw [hempty]
    exact ⟨nofun, fun h => absurd h.1 (by decide)⟩
  · split
    next hoccurs => simp [hoccurs]
    next habsent => simp [habsent]

theorem textOf_main (expandLayout : List Char → Except Fault (List Char)) (collection : List Char) :
    Placeholder.main.textOf expandLayout collection = .ok collection := rfl

theorem fills_append {piece : List Char} (hpiece : ∀ c ∈ piece, isBrace c = false)
    (h : Fills expandLayout collection rest path) :
    Fills expandLayout collection (piece ++ rest) (piece ++ path) := by
  induction piece with
  | nil => exact h
  | cons c piece ih =>
    obtain ⟨hc, hothers⟩ := List.forall_mem_cons.1 hpiece
    exact (fills_mark_iff fun _ => consists_plain_iff hc).2 ⟨_, ih hothers, rfl⟩

theorem fills_main (h : Fills expandLayout collection rest path) :
    Fills expandLayout collection (mainPlaceholder.toList ++ rest) (collection ++ path) := by
  have hinner : (collectionName ++ '\x7d' :: rest).head? ≠ some '\x7b' := by
    rintro ⟨⟩
  exact (fills_hole_iff hinner).2
    ⟨.main, rest, collection, path, scanPlaceholder_main rest, textOf_main _ _, h, rfl⟩

theorem fills_glue {pieces : List String} (h : ∀ piece ∈ pieces, Unbraced piece) :
    Fills expandLayout collection (Text.glue mainPlaceholder.toList (pieces.map String.toList))
      (Text.glue collection (pieces.map String.toList)) := by
  induction pieces with
  | nil => exact fills_nil_iff.2 rfl
  | cons piece others ih =>
    obtain ⟨hpiece, hothers⟩ := List.forall_mem_cons.1 h
    cases others with
    | nil =>
      have hend : Fills expandLayout collection [] [] := fills_nil_iff.2 rfl
      simpa [Text.glue] using fills_append hpiece hend
    | cons next rest =>
      rw [List.map_cons, Text.glue_cons _ (by simp), Text.glue_cons _ (by simp), List.append_assoc,
        List.append_assoc]
      exact fills_append hpiece (fills_main (ih hothers))

/-- Texts without braces, joined by the placeholder, are a template that has a resolver. It joins the
same texts by the name, and no two names have one path. -/
theorem joined_substituted {pieces : List String} (hlength : 2 ≤ pieces.length)
    (hpieces : ∀ piece ∈ pieces, Unbraced piece) :
    ∃ resolver, resolver? (some (Text.join mainPlaceholder pieces)) = .ok (some resolver)
      ∧ (∀ name, resolver name = .ok (Text.join name pieces))
      ∧ Function.Injective resolver := by
  obtain ⟨first, next, others, rfl⟩ : ∃ first next others, pieces = first :: next :: others := by
    match pieces, hlength with
    | first :: next :: others, _ => exact ⟨first, next, others, rfl⟩
  have hpath (name : String) : pathOf (Text.join mainPlaceholder (first :: next :: others)) name
      = .ok (Text.join name (first :: next :: others)) := by
    rw [pathOf_eq_ok_iff, Text.join, Text.join, String.toList_ofList, String.toList_ofList]
    exact fills_glue hpieces
  refine ⟨_, resolver?_eq_some_iff.2 ⟨?_, rfl⟩, hpath, ?_⟩
  · rw [Text.join, String.toList_ofList]
    exact infix_glue _ _ _
  · intro name other h
    rw [hpath, hpath, Except.ok.injEq, Text.join, Text.join, String.ofList_inj] at h
    exact String.toList_injective (eq_of_glue (by simp) h)

end

theorem typesFolder_substituted :
    2 ≤ ["./types/", "/", ".d.ts"].length ∧ (∀ piece ∈ ["./types/", "/", ".d.ts"], Unbraced piece)
      ∧ ∃ resolver,
        @resolver? .bare (some "./types/\x7bcollection\x7d/\x7bcollection\x7d.d.ts")
          = .ok (some resolver)
        ∧ resolver "\x7bcollection\x7d" = .ok "./types/\x7bcollection\x7d/\x7bcollection\x7d.d.ts"
        ∧ resolver "!r:>9\x7d" = .ok "./types/!r:>9\x7d/!r:>9\x7d.d.ts" := by
  have hlength : 2 ≤ ["./types/", "/", ".d.ts"].length := by decide
  have hpieces : ∀ piece ∈ ["./types/", "/", ".d.ts"], Unbraced piece := by simp [Unbraced, isBrace]
  obtain ⟨resolver, hresolver, hpath, -⟩ := @joined_substituted .bare _ hlength hpieces
  refine ⟨hlength, hpieces, resolver, hresolver, ?_, ?_⟩
  · exact hpath _
  · exact hpath _

end StorageTypes.ImportPath

