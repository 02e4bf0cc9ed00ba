import StorageTypes.Proofs.Paragraphs

namespace StorageTypes

namespace Text

variable {a b text shown mark : String} {members others parts : List String}

theorem oneLine_of_mem_lines {line : String} (h : line ∈ lines text) : OneLine line := by
  obtain ⟨piece, hpiece, rfl⟩ := List.mem_map.1 h
  rw [OneLine, String.toList_ofList]
  exact not_mem_of_mem_pieces hpiece

theorem lines_eq_iff :
    lines text = members
      ↔ members ≠ [] ∧ (∀ member ∈ members, OneLine member) ∧ join "\n" members = text := by
  constructor
  · intro h
    subst h
    exact ⟨lines_ne_nil text, fun _ hline => oneLine_of_mem_lines hline, join_lines text⟩
  · intro h
    obtain ⟨hne, hone, rfl⟩ := h
    exact pieces_join rfl hne hone

theorem lines_of_oneLine (h : OneLine text) : lines text = [text] := by
  rw [lines, pieces_of_not_mem h, List.map_singleton, String.ofList_toList]

theorem lines_join_flatMap (h : parts ≠ []) : lines (join "\n" parts) = parts.flatMap lines := by
  induction parts with
  | nil => exact absurd rfl h
  | cons first rest ih =>
    cases rest with
    | nil => simp [join, glue, String.ofList_toList]
    | cons next more =>
      have hmore := ih (List.cons_ne_nil next more)
      rw [join_cons first (List.cons_ne_nil next more), lines_append, hmore,
        ← List.flatMap_cons]

theorem length_lines_append (text : String) (hmark : OneLine mark) :
    (lines (text ++ mark)).length = (lines text).length := by
  rw [length_lines, length_lines, String.toList_append, List.count_append,
    List.count_eq_zero.2 hmark, Nat.add_zero]

def withoutMargin (line : String) : String :=
  String.ofList (line.toList.drop 4)

theorem withoutMargin_margin (line : String) : withoutMargin (margin ++ line) = line := by
  rw [withoutMargin, String.toList_append]
  exact String.ofList_toList

theorem map_withoutMargin (shown : List String) :
    (shown.map (margin ++ ·)).map withoutMargin = shown := by
  rw [List.map_map]
  exact List.map_id'' withoutMargin_margin shown

theorem lines_indent (text : String) : lines (indent text) = (lines text).map (margin ++ ·) := by
  rw [lines_eq_iff]
  refine ⟨by simp [lines_ne_nil], ?_, rfl⟩
  intro shifted hshifted
  obtain ⟨line, hline, rfl⟩ := List.mem_map.1 hshifted
  exact oneLine_append.2 ⟨by decide, oneLine_of_mem_lines hline⟩

def outdent (text : String) : String :=
  join "\n" ((lines text).map withoutMargin)

theorem outdent_indent (text : String) : outdent (indent text) = text := by
  rw [outdent, lines_indent, map_withoutMargin, join_lines]

theorem indent_injective : Function.Injective indent :=
  Function.LeftInverse.injective outdent_indent

theorem indent_append (a b : String) : indent (a ++ "\n" ++ b) = indent a ++ "\n" ++ indent b := by
  rw [← join_lines (indent a ++ "\n" ++ indent b), lines_append, lines_indent, lines_indent,
    ← List.map_append, ← lines_append]
  rfl

/-- What is left of a text whose lines are moved to the right. -/
structure Moved (text moved : String) : Prop where
  length : (lines moved).length = (lines text).length
  filled : "" ∉ lines moved
  undone : outdent moved = text

theorem moved_indent (text : String) : Moved text (indent text) := by
  constructor
  case length => rw [lines_indent, List.length_map]
  case filled =>
    intro hempty
    obtain ⟨piece, hpiece, hnil⟩ := List.mem_map.1 hempty
    rw [String.ofList_eq_empty_iff] at hnil
    subst hnil
    exact filled_indent text hpiece
  case undone => exact outdent_indent text

def between (shown : List String) : List String :=
  shown.tail.dropLast

theorem between_concat (first last : String) (inner : List String) :
    between (first :: (inner ++ [last])) = inner := by
  rw [between, List.tail_cons, List.dropLast_concat]

theorem exists_block (h : members ≠ []) : ∃ shown, block members = some shown := by
  rw [← Option.ne_none_iff_exists', ne_eq, block_eq_none_iff]
  exact h

theorem block_eq_some_iff :
    block members = some shown
      ↔ members ≠ [] ∧ shown = "\x7b\n" ++ indent (join "\n" members) ++ "\n\x7d" := by
  cases members with
  | nil => simp [block]
  | cons first rest => simp [block, eq_comm]

theorem lines_block (h : block members = some shown)
    (hmembers : ∀ member ∈ members, OneLine member) (hmark : OneLine mark) :
    lines (shown ++ mark) = "\x7b" :: (members.map (margin ++ ·) ++ ["\x7d" ++ mark]) := by
  obtain ⟨hne, rfl⟩ := block_eq_some_iff.1 h
  have hinner : lines (join "\n" members) = members := lines_eq_iff.2 ⟨hne, hmembers, rfl⟩
  have hopening : OneLine "\x7b" := by decide
  have hclosing : OneLine ("\x7d" ++ mark) := oneLine_append.2 ⟨by decide, hmark⟩
  have hbreaks : "\x7b\n" ++ indent (join "\n" members) ++ "\n\x7d" ++ mark
      = "\x7b" ++ "\n" ++ (indent (join "\n" members) ++ "\n" ++ ("\x7d" ++ mark)) := by
    apply String.toList_injective
    simp [String.toList_append]
  rw [hbreaks, lines_append, lines_append, lines_of_oneLine hopening, lines_of_oneLine hclosing,
    lines_indent, hinner]
  rfl

theorem between_block (h : block members = some shown)
    (hmembers : ∀ member ∈ members, OneLine member) :
    (between (lines shown)).map withoutMargin = members := by
  have hmark : OneLine "" := by decide
  have hlines := lines_block h hmembers hmark
  rw [String.append_empty] at hlines
  rw [hlines, between_concat, map_withoutMargin]

theorem between_indent_block (h : block members = some shown)
    (hmembers : ∀ member ∈ members, OneLine member) (hmark : OneLine mark) :
    (between (lines (indent (shown ++ mark)))).map (withoutMargin ∘ withoutMargin) = members := by
  rw [lines_indent, lines_block h hmembers hmark, List.map_cons, List.map_append, List.map_singleton,
    between_concat, ← List.map_map, map_withoutMargin, map_withoutMargin]

theorem eq_of_block (hmembers : ∀ member ∈ members, OneLine member)
    (hothers : ∀ other ∈ others, OneLine other) (h : block members = block others) :
    members = others := by
  cases hshown : block members with
  | none =>
    rw [hshown] at h
    rw [block_eq_none_iff.1 hshown, block_eq_none_iff.1 h.symm]
  | some shown =>
    rw [hshown] at h
    rw [← between_block hshown hmembers, between_block h.symm hothers]

def isInner (line : String) : Bool :=
  (margin ++ margin).toList.isPrefixOf line.toList

theorem isInner_margin (line : String) : isInner (margin ++ (margin ++ line)) = true := by
  have hmargins : (margin ++ (margin ++ line)).toList = (margin ++ margin).toList ++ line.toList := by
    simp only [String.toList_append, List.append_assoc]
  rw [isInner, List.isPrefixOf_iff_prefix, hmargins]
  exact List.prefix_append _ _

theorem isInner_closing (mark : String) : isInner (margin ++ ("\x7d" ++ mark)) = false := by
  simp [isInner, margin, String.toList_append, List.isPrefixOf]

/-- The members of the block that opens one margin in at a row of a text; they end where the lines are
no longer behind two margins. -/
def membersAt (text : String) (row : Nat) : List String :=
  (((lines text).drop (row + 1)).takeWhile isInner).map (withoutMargin ∘ withoutMargin)

theorem membersAt_eq {above below : List String} {row : Nat} (h : block members = some shown)
    (hmembers : ∀ member ∈ members, OneLine member) (hmark : OneLine mark)
    (hlines : lines text = above ++ lines (indent (shown ++ mark)) ++ below)
    (hrow : above.length = row) : membersAt text row = members := by
  have hinner : ∀ line ∈ (members.map (margin ++ ·)).map (margin ++ ·), isInner line = true := by
    intro line hline
    obtain ⟨behind, hbehind, rfl⟩ := List.mem_map.1 hline
    obtain ⟨member, -, rfl⟩ := List.mem_map.1 hbehind
    exact isInner_margin member
  have hopened : (lines text).drop (row + 1)
      = (members.map (margin ++ ·)).map (margin ++ ·)
        ++ (margin ++ ("\x7d" ++ mark)) :: below := by
    rw [hlines, lines_indent, lines_block h hmembers hmark, ← hrow, List.append_assoc,
      List.drop_length_add_append]
    simp
  rw [membersAt, hopened, List.takeWhile_append_of_pos hinner,
    List.takeWhile_cons_of_neg (by simp [isInner_closing]), List.append_nil, ← List.map_map,
    map_withoutMargin, map_withoutMargin]

end Text

def markBefore (after : List String) : String :=
  if after.isEmpty then "" else " &"

def marked : List String → List String
  | [] => []
  | segment :: after => (segment ++ markBefore after) :: marked after

variable {segments before after rest tail members others : List String} {shown : String}
  {declaration other : Declaration}

theorem oneLine_markBefore (after : List String) : Text.OneLine (markBefore after) := by
  rw [markBefore]
  split
  · decide
  · decide

theorem marked_ne_nil (h : segments ≠ []) : marked segments ≠ [] := by
  cases segments with
  | nil => exact absurd rfl h
  | cons first rest => exact List.cons_ne_nil _ _

theorem join_marked (segments : List String) :
    Text.join " &\n" segments = Text.join "\n" (marked segments) := by
  induction segments with
  | nil => rfl
  | cons first rest ih =>
    cases rest with
    | nil => simp [marked, markBefore, Text.join, Text.glue]
    | cons next more =>
      have hrest : next :: more ≠ [] := List.cons_ne_nil next more
      have hbreak : " &\n" = " &" ++ "\n" := by decide
      rw [marked, Text.join_cons _ hrest, Text.join_cons _ (marked_ne_nil hrest), ih, hbreak,
        ← String.append_assoc]
      rfl

theorem marked_append (before : List String) (segment : String) (after : List String) :
    marked (before ++ segment :: after)
      = before.map (· ++ " &") ++ (segment ++ markBefore after) :: marked after := by
  induction before with
  | nil => rfl
  | cons first rest ih =>
    have hmark : markBefore (rest ++ segment :: after) = " &" := by simp [markBefore]
    rw [List.cons_append, marked, hmark, ih]
    rfl

theorem length_lines_marked (before : List String) :
    ((before.map (· ++ " &")).flatMap Text.lines).length = (before.flatMap Text.lines).length := by
  induction before with
  | nil => rfl
  | cons first rest ih =>
    have hmark : Text.OneLine " &" := by decide
    rw [List.map_cons, List.flatMap_cons, List.flatMap_cons, List.length_append,
      List.length_append, ih, Text.length_lines_append first hmark]

namespace Declaration

theorem segments_ne_nil (declaration : Declaration) : declaration.segments ≠ [] := by
  simp [segments]

theorem lines_text (declaration : Declaration) :
    Text.lines declaration.text = Text.lines declaration.header
      ++ ((marked declaration.segments).flatMap Text.lines).map (Text.margin ++ ·) := by
  rw [text, Text.lines_append, Text.lines_indent, join_marked,
    Text.lines_join_flatMap (marked_ne_nil declaration.segments_ne_nil)]

def rowsAbove (declaration : Declaration) (before : List String) : Nat :=
  (Text.lines declaration.header).length + (before.flatMap Text.lines).length

theorem exists_lines_around (h : declaration.segments = before ++ shown :: after) :
    ∃ above below, Text.lines declaration.text
        = above ++ Text.lines (Text.indent (shown ++ markBefore after)) ++ below
      ∧ above.length = declaration.rowsAbove before := by
  refine ⟨Text.lines declaration.header
      ++ ((before.map (· ++ " &")).flatMap Text.lines).map (Text.margin ++ ·),
    ((marked after).flatMap Text.lines).map (Text.margin ++ ·), ?_, ?_⟩
  · rw [lines_text, h, marked_append, List.flatMap_append, List.flatMap_cons, List.map_append,
      List.map_append, Text.lines_indent]
    simp only [List.append_assoc]
  · rw [List.length_append, List.length_map, length_lines_marked, rowsAbove]

def HasBlock (declaration : Declaration) (before members after : List String) : Prop :=
  ∃ shown, Text.block members = some shown ∧ declaration.segments = before ++ shown :: after

theorem hasBlock_of_segments (hne : members ≠ [])
    (h : declaration.segments = before ++ (Text.block members).toList ++ after) :
    declaration.HasBlock before members after := by
  obtain ⟨shown, hshown⟩ := Text.exists_block hne
  rw [hshown, List.append_assoc] at h
  exact ⟨shown, hshown, h⟩

theorem hasBlock_fields (h : declaration.fields ≠ []) :
    declaration.HasBlock [declaration.key.text] (declaration.fields.map (·.text))
      ((Text.block (declaration.forward.map (·.text))).toList
        ++ declaration.reverse.map (·.text)) := by
  apply hasBlock_of_segments
  · simpa using h
  · simp [segments]

theorem hasBlock_forward (h : declaration.forward ≠ []) :
    declaration.HasBlock
      ([declaration.key.text] ++ (Text.block (declaration.fields.map (·.text))).toList)
      (declaration.forward.map (·.text)) (declaration.reverse.map (·.text)) := by
  apply hasBlock_of_segments
  · simpa using h
  · simp [segments]

/-- A block as the text of a declaration shows it among the segments before and after it. -/
structure ShowsBlock (declaration : Declaration) (before members after : List String) : Prop where
  /-- The lines of the block stand in the text behind one more margin. -/
  placed : ∃ shown above below, Text.block members = some shown
    ∧ Text.lines declaration.text
      = above ++ Text.lines (Text.indent (shown ++ markBefore after)) ++ below
    ∧ above.length = declaration.rowsAbove before
    ∧ (Text.between (Text.lines (Text.indent (shown ++ markBefore after)))).map
      (Text.withoutMargin ∘ Text.withoutMargin) = members
  /-- The text tells the members to those who know the row. -/
  told : Text.membersAt declaration.text (declaration.rowsAbove before) = members

theorem HasBlock.showsBlock (h : declaration.HasBlock before members after)
    (hmembers : ∀ member ∈ members, Text.OneLine member) :
    declaration.ShowsBlock before members after := by
  obtain ⟨shown, hshown, hsegments⟩ := h
  obtain ⟨above, below, hlines, hrow⟩ := exists_lines_around hsegments
  have hmark := oneLine_markBefore after
  have hundone := Text.between_indent_block hshown hmembers hmark
  constructor
  case placed => exact ⟨shown, above, below, hshown, hlines, hrow, hundone⟩
  case told => exact Text.membersAt_eq hshown hmembers hmark hlines hrow

theorem HasBlock.unique (h : declaration.HasBlock before members after)
    (hother : other.HasBlock rest others tail)
    (hmembers : ∀ member ∈ members, Text.OneLine member)
    (hothers : ∀ member ∈ others, Text.OneLine member)
    (hrow : declaration.rowsAbove before = other.rowsAbove rest)
    (htext : declaration.text = other.text) : members = others := by
  rw [← (h.showsBlock hmembers).told, ← (hother.showsBlock hothers).told, hrow, htext]

end Declaration

/-- Indentation keeps the lines of a text, leaves none of them empty and can be undone, and it can be
done part by part. The members of a block, of one line each, are between its first and last line behind
a margin, and behind two where the block is part of a declaration. So different members never make the
same block, nor blocks at one row of the same declaration. -/
theorem indentation_undone :
    (∀ text, Text.Moved text (Text.indent text)) ∧ Function.Injective Text.indent
      ∧ (∀ a b, Text.indent (a ++ "\n" ++ b) = Text.indent a ++ "\n" ++ Text.indent b)
      ∧ (∀ members, members ≠ [] → (∀ member ∈ members, Text.OneLine member) →
        (∃ shown, Text.block members = some shown
          ∧ (Text.between (Text.lines shown)).map Text.withoutMargin = members)
        ∧ ∀ (declaration : Declaration) (before after : List String),
          declaration.HasBlock before members after → declaration.ShowsBlock before members after)
      ∧ ∀ members others, (∀ member ∈ members, Text.OneLine member) →
        (∀ member ∈ others, Text.OneLine member) → members ≠ others →
        Text.block members ≠ Text.block others
          ∧ ∀ (declaration other : Declaration) (before after rest tail : List String),
            declaration.HasBlock before members after → other.HasBlock rest others tail →
            declaration.rowsAbove before = other.rowsAbove rest →
            declaration.text ≠ other.text := by
  refine ⟨Text.moved_indent, Text.indent_injective, Text.indent_append, ?_, ?_⟩
  · intro members hne hmembers
    obtain ⟨shown, hshown⟩ := Text.exists_block hne
    refine ⟨⟨shown, hshown, Text.between_block hshown hmembers⟩, ?_⟩
    intro declaration before after h
    exact h.showsBlock hmembers
  · intro members others hmembers hothers hne
    constructor
    · intro hblock
      exact hne (Text.eq_of_block hmembers hothers hblock)
    · intro declaration other before after rest tail h hother hrow htext
      exact hne (h.unique hother hmembers hothers hrow htext)

def bracedDeclaration : Declaration :=
  ⟨"note", true, ⟨"id", "number\n| string", false⟩, [⟨"", false, "\x7d"⟩, ⟨"        ", true, "\x7b"⟩],
    [⟨"list", "list", "number"⟩], []⟩

theorem bracedDeclaration_undone :
    (∀ member ∈ bracedDeclaration.fields.map (·.text), Text.OneLine member)
      ∧ (∀ member ∈ bracedDeclaration.forward.map (·.text), Text.OneLine member)
      ∧ Text.membersAt bracedDeclaration.text 3 = [" : \x7d", "        ? : \x7b"]
      ∧ Text.membersAt bracedDeclaration.text 7
        = ["list : 'list' extends Relationships ? List : number"] := by
  have hfields : ∀ member ∈ bracedDeclaration.fields.map (·.text), Text.OneLine member := by decide
  have hforward : ∀ member ∈ bracedDeclaration.forward.map (·.text), Text.OneLine member := by decide
  obtain ⟨-, -, -, hblocks, -⟩ := indentation_undone
  obtain ⟨-, hreads⟩ := hblocks _ (by decide) hfields
  obtain ⟨-, hselects⟩ := hblocks _ (by decide) hforward
  have hhigher := hreads bracedDeclaration _ _ (Declaration.hasBlock_fields (by decide))
  have hlower := hselects bracedDeclaration _ _ (Declaration.hasBlock_forward (by decide))
  exact ⟨hfields, hforward, hhigher.told, hlower.told⟩

end StorageTypes
