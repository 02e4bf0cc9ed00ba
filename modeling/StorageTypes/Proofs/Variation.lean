import StorageTypes.Proofs.Alignment
import StorageTypes.Proofs.Layouts
import StorageTypes.Proofs.Templates

namespace StorageTypes.ImportPath

/-- A name that no layout has room for, but for its first letter as a fill. -/
def probe : List Char := ['x', 'x']

/-- Characters of the probe, as it is and in quotes. -/
def Strange (c : Char) : Prop :=
  c = 'x' ∨ c = '\''

variable {c : Char} {f g content layouts : List Char → List Char} {text layout : List Char} {width : Nat}
  {places : Option Nat}

theorem Strange.not_sizing (h : Strange c) : ¬Sizing c := by
  rcases h with rfl | rfl <;> decide

theorem Strange.not_isSideMark (h : Strange c) : ¬IsSideMark c := by
  rintro ⟨side, hside⟩
  rcases h with rfl | rfl <;> cases hside

/-- How the texts of names differ, as far as the probe tells: not at all, by a character that comes first
or is left out, or further on. -/
inductive Varies (f : List Char → List Char) : Prop where
  | never (h : ∀ name, f name = f probe)
  | first {c : Char} {rest : List Char} (hc : Strange c) (hprobe : f probe = c :: rest)
      (h : ∀ name, f name = rest ∨ ∃ d, f name = d :: rest)
  | later {c : Char} (hc : Strange c) (h : c ∈ (f probe).tail)

theorem mem_tail_append_left {first : List Char} (second : List Char) (h : c ∈ first.tail) :
    c ∈ (first ++ second).tail := by
  cases first with
  | nil => cases h
  | cons d first => exact List.mem_append_left second h

theorem mem_tail_append_right (first : List Char) {second : List Char} (h : c ∈ second.tail) :
    c ∈ (first ++ second).tail := by
  cases first with
  | nil => exact h
  | cons d first => exact List.mem_append_right first (List.mem_of_mem_tail h)

theorem mem_tail_of_ne_nil {first second : List Char} (hfirst : first ≠ []) (h : c ∈ second) :
    c ∈ (first ++ second).tail := by
  cases first with
  | nil => exact absurd rfl hfirst
  | cons d first => exact List.mem_append_right first h

namespace Varies

theorem fixed (text : List Char) : Varies fun _ => text :=
  .never fun _ => rfl

theorem append (hf : Varies f) (hg : Varies g) : Varies fun name => f name ++ g name := by
  cases hf with
  | later hc h => exact .later hc (mem_tail_append_left _ h)
  | never hf =>
    cases hg with
    | later hc h => exact .later hc (mem_tail_append_right _ h)
    | never hg =>
      refine .never fun name => ?_
      rw [hf, hg]
    | @first c rest hc hprobe h =>
      cases hstart : f probe with
      | nil =>
        have hempty (name : List Char) : f name = [] := (hf name).trans hstart
        simp only [hempty, List.nil_append]
        exact .first hc hprobe h
      | cons d others =>
        refine .later hc (mem_tail_of_ne_nil ?_ ?_)
        · rw [hstart]
          exact List.cons_ne_nil _ _
        · rw [hprobe]
          exact List.mem_cons_self
  | @first c rest hc hprobe h =>
    cases hg with
    | later hd h => exact .later hd (mem_tail_append_right _ h)
    | first hd hother _ =>
      refine .later hd (mem_tail_of_ne_nil ?_ ?_)
      · rw [hprobe]
        exact List.cons_ne_nil _ _
      · rw [hother]
        exact List.mem_cons_self
    | never hg =>
      have hboth : f probe ++ g probe = c :: (rest ++ g probe) := by
        rw [hprobe, List.cons_append]
      refine .first hc hboth fun name => ?_
      rw [hg]
      rcases h name with hname | ⟨d, hname⟩
      · exact .inl (by rw [hname])
      · exact .inr ⟨d, by rw [hname, List.cons_append]⟩

end Varies

namespace Layout

variable (layout : Layout)

theorem apply_congr {s t : List Char} (h : cut layout.places s = cut layout.places t) :
    layout.apply s = layout.apply t := by
  rw [apply_eq, apply_eq, missing, missing, h]

theorem apply_nil : layout.apply [] = List.replicate (layout.width.getD 0) layout.fill := by
  have hcut : cut layout.places [] = [] := List.prefix_nil.1 (prefix_cut _ _)
  have hleading := layout.leading_le (layout.missing [])
  have hmissing : layout.missing [] = layout.width.getD 0 := by
    rw [missing, hcut, List.length_nil, Nat.sub_zero]
  rw [apply_eq, hcut, List.append_nil, List.replicate_append_replicate, Nat.add_sub_cancel' hleading,
    hmissing]

theorem apply_one (hplaces : layout.places = some 1) (d : Char) (rest : List Char) :
    layout.apply (d :: rest)
      = List.replicate (layout.leading (layout.width.getD 0 - 1)) layout.fill
        ++ d :: List.replicate (layout.width.getD 0 - 1 - layout.leading (layout.width.getD 0 - 1))
          layout.fill := by
  have hcut : cut layout.places (d :: rest) = [d] := by
    rw [hplaces]
    rfl
  rw [apply_eq, missing, hcut, List.append_assoc]
  rfl

theorem varies_of_one (hplaces : layout.places = some 1) {first : Char} {rest : List Char}
    (hprobe : content probe = first :: rest) (hfirst : Strange first) :
    Varies fun name => layout.apply (content name) := by
  have hone := layout.apply_one hplaces
  cases hleading : layout.leading (layout.width.getD 0 - 1) with
  | succ count =>
    refine .later hfirst ?_
    rw [hprobe, hone, hleading]
    exact mem_tail_of_ne_nil (List.cons_ne_nil _ _) List.mem_cons_self
  | zero =>
    simp only [hleading, List.replicate_zero, List.nil_append, Nat.sub_zero] at hone
    have hstart : layout.apply (content probe)
        = first :: List.replicate (layout.width.getD 0 - 1) layout.fill := by
      rw [hprobe, hone]
    refine .first hfirst hstart fun name => ?_
    cases hname : content name with
    | cons d others => exact .inr ⟨d, hone d others⟩
    | nil =>
      rw [layout.apply_nil]
      cases layout.width.getD 0 with
      | zero => exact .inl rfl
      | succ count => exact .inr ⟨layout.fill, rfl⟩

theorem varies_of_strange {first second : Char} {rest : List Char}
    (hprobe : content probe = first :: second :: rest) (hfirst : Strange first)
    (hsecond : Strange second) : Varies fun name => layout.apply (content name) := by
  have hkept {kept : List Char}
      (h : cut layout.places (content probe) = first :: second :: kept) :
      Varies fun name => layout.apply (content name) := by
    refine .later hsecond ?_
    rw [apply_eq, h]
    exact mem_tail_append_left _ (mem_tail_append_right _ List.mem_cons_self)
  cases hplaces : layout.places with
  | none =>
    apply hkept
    rw [hplaces, hprobe]
    rfl
  | some count =>
    match count, hplaces with
    | 0, hplaces =>
      refine .never fun name => layout.apply_congr ?_
      rw [hplaces]
      rfl
    | 1, hplaces => exact layout.varies_of_one hplaces hprobe hfirst
    | count + 2, hplaces =>
      apply hkept
      rw [hplaces, hprobe]
      rfl

theorem varies (hwriting : Writing content) : Varies fun name => layout.apply (content name) := by
  cases hwriting with
  | plain => exact layout.varies_of_strange rfl (.inl rfl) (.inl rfl)
  | @quoted shown hsingle hdouble hletter =>
    have hletters : Text.quotedChar shown '\'' 'x' = ['x'] := by
      simp [Text.quotedChar, hletter]
    have hprobe : Text.quotedBy shown probe = '\'' :: 'x' :: ['x', '\''] := by
      have hquote : Text.quoteFor probe = '\'' := rfl
      simp only [Text.quotedBy, hquote]
      simp [probe, hletters]
    exact layout.varies_of_strange hprobe (.inr rfl) (.inl rfl)

end Layout

variable [Host]

/-- A layout as it is written, and its parts. An empty layout asks for nothing. -/
def Follows (layout : List Char) (parts : Layout) : Prop :=
  if layout = [] then parts = {} else Layout.read layout = .ok parts ∧ parts.allowed = .ok ()

def Asks (layout : List Char) (width : Nat) (places : Option Nat) : Prop :=
  ∃ parts, Follows layout parts ∧ parts.width.getD 0 = width ∧ parts.places = places

theorem asks_iff_allows (h : layout ≠ []) : Asks layout width places ↔ Allows layout width places := by
  simp only [Asks, Follows, Allows, if_neg h, and_assoc]

theorem laidOut_eq_ok_iff {shown : List Char} :
    laidOut layout text = .ok shown ↔ ∃ parts, Follows layout parts ∧ parts.apply text = shown := by
  cases layout with
  | nil =>
    have hdefault : ({} : Layout).apply text = text := Layout.apply_of_wide _ (Nat.zero_le _)
    simp only [laidOut, Follows, List.isEmpty_nil, if_true, exists_eq_left, hdefault, Except.ok.injEq]
  | cons c rest =>
    simp only [laidOut, Follows, List.isEmpty_cons, Bool.false_eq_true, if_false, reduceCtorEq]
    constructor
    · intro h
      obtain ⟨parts, hread, h⟩ := bind_eq_ok_iff.1 h
      obtain ⟨_, hallowed, h⟩ := bind_eq_ok_iff.1 h
      cases h
      exact ⟨parts, ⟨hread, hallowed⟩, rfl⟩
    · rintro ⟨parts, ⟨hread, hallowed⟩, rfl⟩
      exact bind_eq_ok_iff.2 ⟨parts, hread, bind_eq_ok_iff.2 ⟨(), hallowed, rfl⟩⟩

theorem Varies.asks (h : Varies layouts) (hprobe : Asks (layouts probe) width places)
    (name : List Char) : Asks (layouts name) width places := by
  cases h with
  | never h => rwa [h name]
  | later hc hmem =>
    cases hlayout : layouts probe with
    | nil =>
      rw [hlayout] at hmem
      cases hmem
    | cons d others =>
      rw [hlayout] at hmem hprobe
      obtain ⟨front, back, rfl⟩ := List.append_of_mem hmem
      have hallows : Allows ((d :: front) ++ _ :: back) width places :=
        (asks_iff_allows (List.cons_ne_nil _ _)).1 hprobe
      cases (hallows.start_of_not_sizing hc.not_sizing hc.not_isSideMark).1
  | first hc hstart h =>
    rw [hstart] at hprobe
    have hallows : Allows ([] ++ _ :: _) width places :=
      (asks_iff_allows (List.cons_ne_nil _ _)).1 hprobe
    obtain ⟨-, mark, rest, hmark, rfl⟩ :=
      hallows.start_of_not_sizing hc.not_sizing hc.not_isSideMark
    obtain ⟨hfills, hplain⟩ := hallows.refill hmark
    rcases h name with hname | ⟨d, hname⟩
    · rw [hname]
      exact (asks_iff_allows (List.cons_ne_nil _ _)).2 hplain
    · rw [hname]
      exact (asks_iff_allows (List.cons_ne_nil _ _)).2 (hfills d)

variable {placeholder : Placeholder} {collection : List Char}
  {expandLayout : List Char → Except Fault (List Char)}

/-- Placeholders whose steps do not start with a member of the name. -/
def Placeholder.Direct (placeholder : Placeholder) : Prop :=
  (placeholder.name.dropWhile fun c => c != '.' && c != '[').head? ≠ some '.'

def Placeholder.aspectOf (collection : List Char) (placeholder : Placeholder) :
    Except Fault (Aspect Host.Thing) :=
  lookUp collection placeholder.name >>= convert placeholder.conversion

theorem take_empty_item {access : Access} {reached : Aspect Host.Thing}
    (haccess : ∀ name, access ≠ .member name) : take (.text []) access ≠ .ok reached := by
  intro h
  cases access with
  | member name => exact haccess name rfl
  | place index => cases h
  | key name => cases h

theorem eq_nil_of_follow {steps : List Char} {reached : Aspect Host.Thing}
    (hsteps : steps.head? ≠ some '.') (h : follow steps.length (.text []) steps = .ok reached) :
    steps = [] := by
  cases steps with
  | nil => rfl
  | cons c rest =>
    have hpoint : ¬(c == '.') = true := by
      intro hc
      exact hsteps (congrArg some (eq_of_beq hc))
    simp only [follow, List.length_cons, if_neg hpoint] at h
    split at h
    · split at h
      · cases h
      split at h
      · cases h
      split at h
      · cases h
      split at h
      next hitem =>
        refine absurd hitem (take_empty_item fun name hname => ?_)
        split at hname <;> cases hname
      · cases h
    · cases h

theorem lookUp_of_empty {name : List Char} {reached : Aspect Host.Thing}
    (hsteps : (name.dropWhile fun c => c != '.' && c != '[').head? ≠ some '.')
    (h : lookUp [] name = .ok reached) (collection : List Char) :
    lookUp collection name = .ok (.text collection) := by
  simp only [lookUp, ite_error_eq_ok_iff] at h ⊢
  obtain ⟨hsome, hshort, hword, h⟩ := h
  split at h
  next hfirst =>
    have hnone := eq_nil_of_follow hsteps h
    refine ⟨hsome, hshort, hword, ?_⟩
    rw [if_pos hfirst, hnone]
    rfl
  · cases h

theorem exists_convert_text {conversion : Option Char} {content : List Char}
    {converted : Aspect Host.Thing} (h : convert conversion (.text content) = .ok converted) :
    ∃ write, Writing write
      ∧ ∀ name, convert conversion (.text name : Aspect Host.Thing) = .ok (.text (write name)) := by
  cases conversion with
  | none => exact ⟨_, .plain, fun _ => rfl⟩
  | some code =>
    simp only [convert] at h ⊢
    split at h
    next hcode => exact ⟨_, .plain, fun name => if_pos hcode⟩
    next hcode =>
    split at h
    next hplain => exact ⟨_, .plain, fun name => by rw [if_neg hcode, if_pos hplain]; rfl⟩
    next hplain =>
    split at h
    next hquoted =>
      refine ⟨Text.quotedBy Text.isPrintable, .quoted rfl rfl rfl, fun name => ?_⟩
      rw [if_neg hcode, if_neg hplain, if_pos hquoted]
      rfl
    next hquoted =>
    split at h
    next hascii =>
      refine ⟨Text.quotedBy fun c => decide (c.toNat < 0x80) && Text.isPrintable c,
        .quoted rfl rfl rfl, fun name => ?_⟩
      rw [if_neg hcode, if_neg hplain, if_neg hquoted, if_pos hascii]
      rfl
    · cases h

theorem Placeholder.Direct.exists_written {placeholder : Placeholder} {aspect : Aspect Host.Thing}
    (hdirect : placeholder.Direct) (h : placeholder.aspectOf [] = .ok aspect) :
    ∃ content, Writing content
      ∧ ∀ collection, placeholder.aspectOf collection = .ok (.text (content collection)) := by
  obtain ⟨reached, hreached, hconvert⟩ := bind_eq_ok_iff.1 h
  have hfound := lookUp_of_empty hdirect hreached
  obtain rfl := Except.ok.inj (hreached.symm.trans (hfound []))
  obtain ⟨content, hwriting, hcontent⟩ := exists_convert_text hconvert
  refine ⟨content, hwriting, fun collection => ?_⟩
  exact bind_eq_ok_iff.2 ⟨_, hfound collection, hcontent collection⟩

def Placeholder.layoutOf (expandLayout : List Char → Except Fault (List Char))
    (placeholder : Placeholder) : Except Fault (List Char) :=
  if placeholder.layout.contains '\x7b' then expandLayout placeholder.layout
  else .ok placeholder.layout

theorem Placeholder.textOf_eq : placeholder.textOf expandLayout collection
    = (placeholder.aspectOf collection >>= fun aspect =>
        placeholder.layoutOf expandLayout >>= fun layout => present layout aspect) := by
  rw [textOf, aspectOf, layoutOf]
  cases lookUp collection placeholder.name with
  | error fault => rfl
  | ok reached =>
    cases hconvert : convert placeholder.conversion reached with
    | error fault => simp only [bind, Except.bind, hconvert]
    | ok aspect =>
      simp only [bind, Except.bind, hconvert]
      split <;> rfl

theorem Placeholder.textOf_eq_ok_iff {shown : List Char} :
    placeholder.textOf expandLayout collection = .ok shown
      ↔ ∃ aspect layout, placeholder.aspectOf collection = .ok aspect
        ∧ placeholder.layoutOf expandLayout = .ok layout ∧ present layout aspect = .ok shown := by
  rw [textOf_eq, bind_eq_ok_iff]
  simp only [bind_eq_ok_iff]
  constructor
  · rintro ⟨aspect, haspect, layout, hlayout, h⟩
    exact ⟨aspect, layout, haspect, hlayout, h⟩
  · rintro ⟨aspect, layout, haspect, hlayout, h⟩
    exact ⟨aspect, haspect, layout, hlayout, h⟩

theorem present_text_eq_ok_iff {shown : List Char} :
    present layout (.text text) = .ok shown ↔ ∃ parts, Follows layout parts ∧ parts.apply text = shown := by
  rw [present, mapError_eq_ok_iff, laidOut_eq_ok_iff]

theorem Follows.unique {parts other : Layout} (h : Follows layout parts)
    (hother : Follows layout other) : parts = other := by
  by_cases hempty : layout = []
  · rw [Follows, if_pos hempty] at h hother
    exact h.trans hother.symm
  · rw [Follows, if_neg hempty] at h hother
    exact Except.ok.inj (h.1.symm.trans hother.1)

/-- What a placeholder makes of names with layouts that may depend on them: the name as it is written, with
the same width and places for all names. -/
inductive Laid (layouts : List Char → List Char) : (List Char → List Char) → Prop where
  | apply {content : List Char → List Char} {partsFor : List Char → Layout} {width : Nat}
      {places : Option Nat} (hwriting : Writing content)
      (hfollows : ∀ name, Follows (layouts name) (partsFor name))
      (hwidth : ∀ name, (partsFor name).width.getD 0 = width)
      (hplaces : ∀ name, (partsFor name).places = places) :
      Laid layouts fun name => (partsFor name).apply (content name)

theorem Laid.aligned (h : Laid layouts f) : Aligned f := by
  cases h with
  | @apply content partsFor width places hwriting _ hwidth hplaces =>
    have hlaidOut : LaidOut content (fun name => (partsFor name).apply (content name)) width places :=
      fun name => ⟨partsFor name, hwidth name, hplaces name, rfl⟩
    exact hlaidOut.aligned hwriting

theorem Laid.varies (h : Laid (fun _ => layout) f) : Varies f := by
  cases h with
  | @apply content partsFor _ _ hwriting hfollows _ _ =>
    have hparts (name : List Char) : partsFor name = partsFor probe :=
      (hfollows name).unique (hfollows probe)
    simp only [hparts]
    exact (partsFor probe).varies hwriting

variable {expandFor : List Char → List Char → Except Fault (List Char)}

theorem Placeholder.exists_laid (hdirect : placeholder.Direct)
    (hlayouts : ∀ name, placeholder.layoutOf (expandFor name) = .ok (layouts name))
    (hvaries : Varies layouts)
    (hempty : ∃ shown, placeholder.textOf (expandFor []) [] = .ok shown)
    (hprobe : ∃ shown, placeholder.textOf (expandFor probe) probe = .ok shown) :
    ∃ f, Laid layouts f ∧ ∀ name, placeholder.textOf (expandFor name) name = .ok (f name) := by
  obtain ⟨_, hempty⟩ := hempty
  obtain ⟨shown, hprobe⟩ := hprobe
  obtain ⟨aspect, _, haspect, -⟩ := textOf_eq_ok_iff.1 hempty
  obtain ⟨other, layout, hother, hlayout, hpresent⟩ := textOf_eq_ok_iff.1 hprobe
  cases (hlayouts probe).symm.trans hlayout
  obtain ⟨content, hwriting, hshows⟩ := hdirect.exists_written haspect
  cases (hshows probe).symm.trans hother
  obtain ⟨parts, hparts, -⟩ := present_text_eq_ok_iff.1 hpresent
  have hasks := hvaries.asks ⟨parts, hparts, rfl, rfl⟩
  choose partsFor hfollows hwidth hplaces using hasks
  refine ⟨_, .apply hwriting hfollows hwidth hplaces, fun name => ?_⟩
  exact textOf_eq_ok_iff.2 ⟨_, _, hshows name, hlayouts name,
    present_text_eq_ok_iff.2 ⟨_, hfollows name, rfl⟩⟩

variable {template path other : List Char} {parts : List Part}

def AllDirect (template : List Char) : Prop :=
  ∀ parts, Consists template parts → ∀ placeholder, .hole placeholder ∈ parts → placeholder.Direct

/-- Templates with direct placeholders only, also in the layouts of placeholders. -/
def Plain (template : List Char) : Prop :=
  ∀ parts, Consists template parts → ∀ placeholder, .hole placeholder ∈ parts →
    placeholder.Direct ∧ AllDirect placeholder.layout

/-- Parts that have texts for the empty name and for the probe have texts for every name. What holds of
the texts of placeholders and is kept side by side holds of all together. -/
theorem exists_texts (expandFor : List Char → List Char → Except Fault (List Char))
    {holds : (List Char → List Char) → Prop} (hfixed : ∀ text, holds fun _ => text)
    (happend : ∀ f g, holds f → holds g → holds fun name => f name ++ g name)
    (hhole : ∀ placeholder : Placeholder, .hole placeholder ∈ parts →
      (∃ shown, placeholder.textOf (expandFor []) [] = .ok shown) →
      (∃ shown, placeholder.textOf (expandFor probe) probe = .ok shown) →
        ∃ f, holds f ∧ ∀ name, placeholder.textOf (expandFor name) name = .ok (f name))
    {shown : List (List Char)} (hempty : Texts (expandFor []) [] parts shown)
    {others : List (List Char)} (hprobe : Texts (expandFor probe) probe parts others) :
    ∃ f, holds f
      ∧ ∀ name, ∃ texts, Texts (expandFor name) name parts texts ∧ texts.flatten = f name := by
  induction parts generalizing shown others with
  | nil => exact ⟨_, hfixed [], fun name => ⟨[], .nil, rfl⟩⟩
  | cons part parts ih =>
    obtain ⟨first, shown, hfirst, hshown, rfl⟩ := List.forall₂_cons_left_iff.1 hempty
    obtain ⟨second, others, hsecond, hothers, rfl⟩ := List.forall₂_cons_left_iff.1 hprobe
    have hlater (placeholder : Placeholder) (hmem : .hole placeholder ∈ parts) :=
      hhole placeholder (List.mem_cons_of_mem _ hmem)
    obtain ⟨g, hg, hrest⟩ := ih hlater hshown hothers
    have hpart : ∃ f, holds f ∧ ∀ name, part.textOf (expandFor name) name = .ok (f name) := by
      cases part with
      | mark c => exact ⟨_, hfixed [c], fun _ => rfl⟩
      | hole placeholder =>
        exact hhole placeholder List.mem_cons_self ⟨first, hfirst⟩ ⟨second, hsecond⟩
    obtain ⟨f, hf, htext⟩ := hpart
    refine ⟨_, happend f g hf hg, fun name => ?_⟩
    obtain ⟨texts, htexts, hflatten⟩ := hrest name
    refine ⟨f name :: texts, .cons (htext name) htexts, ?_⟩
    rw [List.flatten_cons, hflatten]

theorem layoutOf_innermost {name : List Char} (h : placeholder.layoutOf (expand name 0) = .ok layout)
    (other : List Char) : placeholder.layoutOf (expand other 0) = .ok layout := by
  rw [Placeholder.layoutOf] at h ⊢
  split at h
  · cases h
  next hplain => rwa [if_neg hplain]

theorem exists_layouts (hdirect : AllDirect template) (hempty : expand [] 1 template = .ok path)
    (hprobe : expand probe 1 template = .ok other) :
    ∃ layouts, Varies layouts ∧ ∀ name, expand name 1 template = .ok (layouts name) := by
  obtain ⟨parts, shown, hparts, hshown, -⟩ := expand_eq_ok_iff.1 hempty
  obtain ⟨parts', others, hparts', hothers, -⟩ := expand_eq_ok_iff.1 hprobe
  obtain rfl := hparts.unique hparts'
  have hhole (placeholder : Placeholder) (hmem : .hole placeholder ∈ parts)
      (hempty : ∃ shown, placeholder.textOf (expand [] 0) [] = .ok shown)
      (hprobe : ∃ shown, placeholder.textOf (expand probe 0) probe = .ok shown) :
      ∃ f, Varies f ∧ ∀ name, placeholder.textOf (expand name 0) name = .ok (f name) := by
    obtain ⟨shown, hshown⟩ := hempty
    obtain ⟨_, layout, -, hlayout, -⟩ := Placeholder.textOf_eq_ok_iff.1 hshown
    obtain ⟨f, hf, htext⟩ := Placeholder.exists_laid (hdirect _ hparts _ hmem)
      (layoutOf_innermost hlayout) (.fixed layout) ⟨shown, hshown⟩ hprobe
    exact ⟨f, hf.varies, htext⟩
  obtain ⟨layouts, hvaries, htexts⟩ :=
    exists_texts (fun name => expand name 0) Varies.fixed (fun _ _ => Varies.append) hhole hshown
      hothers
  refine ⟨layouts, hvaries, fun name => ?_⟩
  obtain ⟨texts, htexts, hflatten⟩ := htexts name
  exact expand_eq_ok_iff.2 ⟨parts, texts, hparts, htexts, hflatten⟩

theorem Placeholder.exists_aligned (hdirect : placeholder.Direct)
    (hinner : AllDirect placeholder.layout)
    (hempty : ∃ shown, placeholder.textOf (expand [] 1) [] = .ok shown)
    (hprobe : ∃ shown, placeholder.textOf (expand probe 1) probe = .ok shown) :
    ∃ f, Aligned f ∧ ∀ name, placeholder.textOf (expand name 1) name = .ok (f name) := by
  have hlayouts : ∃ layouts, Varies layouts
      ∧ ∀ name, placeholder.layoutOf (expand name 1) = .ok (layouts name) := by
    obtain ⟨_, hempty⟩ := hempty
    obtain ⟨_, hprobe⟩ := hprobe
    obtain ⟨_, _, -, hempty, -⟩ := textOf_eq_ok_iff.1 hempty
    obtain ⟨_, _, -, hprobe, -⟩ := textOf_eq_ok_iff.1 hprobe
    simp only [layoutOf] at hempty hprobe ⊢
    split at hempty
    next hbrace =>
      simp only [hbrace, if_true] at hprobe ⊢
      exact exists_layouts hinner hempty hprobe
    next hplain =>
      simp only [hplain]
      exact ⟨_, .fixed placeholder.layout, fun _ => rfl⟩
  obtain ⟨layouts, hvaries, hlayouts⟩ := hlayouts
  obtain ⟨f, hf, htext⟩ := exists_laid hdirect hlayouts hvaries hempty hprobe
  exact ⟨f, hf.aligned, htext⟩

end StorageTypes.ImportPath

