
namespace StorageTypes.Text

/-- The pieces between the occurrences of a mark, one more than there are marks. -/
def pieces (mark : Char) : List Char → List (List Char)
  | [] => [[]]
  | c :: rest =>
    if c = mark then [] :: pieces mark rest
    else
      match pieces mark rest with
      | [] => [[c]]
      | first :: others => (c :: first) :: others

def glue (separator : List Char) : List (List Char) → List Char
  | [] => []
  | [piece] => piece
  | piece :: next :: rest => piece ++ separator ++ glue separator (next :: rest)

theorem glue_cons {separator : List Char} {others : List (List Char)} (first : List Char)
    (h : others ≠ []) :
    glue separator (first :: others) = first ++ separator ++ glue separator others := by
  cases others with
  | nil => exact absurd rfl h
  | cons next rest => rfl

theorem pieces_ne_nil (mark : Char) (text : List Char) : pieces mark text ≠ [] := by
  cases text with
  | nil => simp [pieces]
  | cons c rest =>
    simp only [pieces]
    split
    · simp
    · split <;> simp

theorem length_pieces (mark : Char) (text : List Char) :
    (pieces mark text).length = text.count mark + 1 := by
  induction text with
  | nil => rfl
  | cons c rest ih =>
    by_cases hc : c = mark
    · subst hc
      rw [pieces, if_pos rfl, List.length_cons, ih, List.count_cons_self]
    · rw [List.count_cons_of_ne hc, ← ih, pieces, if_neg hc]
      cases hpieces : pieces mark rest with
      | nil => exact absurd hpieces (pieces_ne_nil mark rest)
      | cons first others => rfl

theorem glue_pieces (mark : Char) (text : List Char) : glue [mark] (pieces mark text) = text := by
  induction text with
  | nil => rfl
  | cons c rest ih =>
    have hne := pieces_ne_nil mark rest
    cases hp : pieces mark rest with
    | nil => exact absurd hp hne
    | cons first others =>
      by_cases hc : c = mark
      · simp only [pieces, hc, hp, if_true, glue, List.nil_append, List.singleton_append]
        rw [← hp, ih]
      · rw [hp] at ih
        simp only [pieces, hc, hp, if_false]
        cases others with
        | nil => simpa [glue] using ih
        | cons next more =>
          simp only [glue, List.cons_append] at ih ⊢
          rw [ih]

theorem not_mem_of_mem_pieces {mark : Char} {text piece : List Char}
    (h : piece ∈ pieces mark text) : mark ∉ piece := by
  induction text generalizing piece with
  | nil => simp_all [pieces]
  | cons c rest ih =>
    simp only [pieces] at h
    split at h
    · rcases List.mem_cons.1 h with rfl | hrest
      · exact List.not_mem_nil
      · exact ih hrest
    next hc =>
    split at h
    · next hp => exact absurd hp (pieces_ne_nil mark rest)
    next first others hp =>
    rcases List.mem_cons.1 h with rfl | hothers
    · rw [List.mem_cons, not_or]
      exact ⟨Ne.symm hc, ih (hp ▸ List.mem_cons_self)⟩
    · exact ih (hp ▸ List.mem_cons_of_mem _ hothers)

theorem pieces_of_not_mem {mark : Char} {text : List Char} (h : mark ∉ text) :
    pieces mark text = [text] := by
  induction text with
  | nil => rfl
  | cons c rest ih =>
    rw [List.mem_cons, not_or] at h
    simp only [pieces, if_neg (Ne.symm h.1), ih h.2]

theorem pieces_append_mark (mark : Char) (first rest : List Char) :
    pieces mark (first ++ mark :: rest) = pieces mark first ++ pieces mark rest := by
  induction first with
  | nil => simp [pieces]
  | cons c more ih =>
    simp only [List.cons_append, pieces, ih]
    split
    · rfl
    · cases hpieces : pieces mark more with
      | nil => exact absurd hpieces (pieces_ne_nil mark more)
      | cons piece others => rfl

theorem pieces_append {mark : Char} {first : List Char} (h : mark ∉ first) (rest : List Char) :
    pieces mark (first ++ mark :: rest) = first :: pieces mark rest := by
  rw [pieces_append_mark, pieces_of_not_mem h, List.singleton_append]

theorem append_mark_inj {mark : Char} {first other rest tail : List Char} (hfirst : mark ∉ first)
    (hother : mark ∉ other) (h : first ++ mark :: rest = other ++ mark :: tail) :
    first = other ∧ rest = tail := by
  have hpieces := congrArg (pieces mark) h
  rw [pieces_append hfirst, pieces_append hother] at hpieces
  obtain ⟨rfl, -⟩ := List.cons.inj hpieces
  exact ⟨rfl, (List.cons.inj (List.append_cancel_left h)).2⟩

theorem pieces_glue {mark : Char} {first : List Char} {others : List (List Char)}
    (h : ∀ piece ∈ first :: others, mark ∉ piece) :
    pieces mark (glue [mark] (first :: others)) = first :: others := by
  induction others generalizing first with
  | nil => exact pieces_of_not_mem (h first List.mem_cons_self)
  | cons next rest ih =>
    have hrest := ih fun piece hpiece => h piece (List.mem_cons_of_mem _ hpiece)
    rw [glue, List.append_assoc, List.singleton_append,
      pieces_append (h first List.mem_cons_self), hrest]

/-- The lines of a text; the empty text has one empty line. -/
def lines (text : String) : List String :=
  (pieces '\n' text.toList).map String.ofList

def join (separator : String) (parts : List String) : String :=
  String.ofList (glue separator.toList (parts.map String.toList))

theorem map_ofList_toList (parts : List String) :
    (parts.map String.toList).map String.ofList = parts := by
  rw [List.map_map]
  exact List.map_id'' (fun _ => String.ofList_toList) parts

theorem map_toList_ofList (pieces : List (List Char)) :
    (pieces.map String.ofList).map String.toList = pieces := by
  rw [List.map_map]
  exact List.map_id'' (fun _ => String.toList_ofList) pieces

theorem join_cons {separator : String} {others : List String} (first : String) (h : others ≠ []) :
    join separator (first :: others) = first ++ separator ++ join separator others := by
  apply String.toList_injective
  have hothers : others.map String.toList ≠ [] := by simpa using h
  simp only [join, List.map_cons, String.toList_ofList, String.toList_append, glue_cons _ hothers]

theorem pieces_join {mark : Char} {separator : String} {parts : List String}
    (hseparator : separator.toList = [mark]) (hne : parts ≠ [])
    (h : ∀ part ∈ parts, mark ∉ part.toList) :
    (pieces mark (join separator parts).toList).map String.ofList = parts := by
  cases parts with
  | nil => exact absurd rfl hne
  | cons first others =>
    have hpieces : pieces mark (glue [mark] (first.toList :: others.map String.toList))
        = (first :: others).map String.toList := by
      apply pieces_glue
      intro piece hpiece
      obtain ⟨part, hpart, rfl⟩ := List.mem_map.1 (List.map_cons ▸ hpiece)
      exact h part hpart
    rw [join, String.toList_ofList, hseparator, List.map_cons, hpieces, map_ofList_toList]

theorem lines_ne_nil (text : String) : lines text ≠ [] := by
  simpa [lines] using pieces_ne_nil '\n' text.toList

theorem join_lines (text : String) : join "\n" (lines text) = text := by
  rw [join, lines, map_toList_ofList]
  exact (congrArg String.ofList (glue_pieces '\n' text.toList)).trans String.ofList_toList

theorem lines_append (a b : String) : lines (a ++ "\n" ++ b) = lines a ++ lines b := by
  have hmark : (a ++ "\n" ++ b).toList = a.toList ++ '\n' :: b.toList := by
    simp [String.toList_append]
  rw [lines, hmark, pieces_append_mark, List.map_append]
  rfl

theorem length_lines (text : String) : (lines text).length = text.toList.count '\n' + 1 := by
  rw [lines, List.length_map, length_pieces]

def margin : String := "    "

/-- Every line moved right by one margin. -/
def indent (text : String) : String :=
  join "\n" ((lines text).map (margin ++ ·))

/-- Lines in an indented block between braces; no lines make no block. -/
def block (members : List String) : Option String :=
  if members.isEmpty then none
  else some ("\x7b\n" ++ indent (join "\n" members) ++ "\n\x7d")

theorem block_eq_none_iff {members : List String} : block members = none ↔ members = [] := by
  cases members <;> simp [block]

end StorageTypes.Text
