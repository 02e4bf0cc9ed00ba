import StorageTypes.Proofs.Variation

namespace StorageTypes.ImportPath

def Resolver.Total (resolver : Resolver) : Prop :=
  ∀ name, ∃ path, resolver name = .ok path

/-- Resolvers that have a path for every name, and no path for two names. -/
structure Resolver.Usable (resolver : Resolver) : Prop where
  total : resolver.Total
  apart : Function.Injective resolver

section

variable [Host]

/-- Parts that have no text for two names. -/
def Part.Tells (part : Part) : Prop :=
  ∀ name other text, part.textOf (expand name 1) name = .ok text →
    part.textOf (expand other 1) other = .ok text → name = other

variable {template path : List Char} {parts first second : List Part} {part : Part}
  {expandLayout : List Char → Except Fault (List Char)} {collection : List Char}

theorem main_tells : (Part.hole .main).Tells := by
  intro name other text hname hother
  cases hname
  cases hother
  rfl

theorem texts_append_iff {texts : List (List Char)} :
    Texts expandLayout collection (first ++ second) texts
      ↔ ∃ before after, Texts expandLayout collection first before
        ∧ Texts expandLayout collection second after ∧ texts = before ++ after := by
  induction first generalizing texts with
  | nil =>
    constructor
    · intro h
      exact ⟨[], texts, .nil, h, rfl⟩
    · rintro ⟨before, after, hbefore, hafter, rfl⟩
      cases hbefore
      exact hafter
  | cons part first ih =>
    constructor
    · intro h
      obtain ⟨text, rest, htext, hrest, rfl⟩ := List.forall₂_cons_left_iff.1 h
      obtain ⟨before, after, hbefore, hafter, rfl⟩ := ih.1 hrest
      exact ⟨text :: before, after, .cons htext hbefore, hafter, rfl⟩
    · rintro ⟨before, after, hbefore, hafter, rfl⟩
      obtain ⟨text, rest, htext, hrest, rfl⟩ := List.forall₂_cons_left_iff.1 hbefore
      exact .cons htext (ih.2 ⟨rest, after, hrest, hafter, rfl⟩)

theorem exists_aligned_texts
    (hplain : ∀ placeholder, .hole placeholder ∈ parts →
      placeholder.Direct ∧ AllDirect placeholder.layout)
    {shown : List (List Char)} (hempty : Texts (expand [] 1) [] parts shown)
    {others : List (List Char)} (hprobe : Texts (expand probe 1) probe parts others) :
    ∃ f, Aligned f
      ∧ ∀ name, ∃ texts, Texts (expand name 1) name parts texts ∧ texts.flatten = f name := by
  refine exists_texts (fun name => expand name 1) Aligned.fixed (fun _ _ => Aligned.append) ?_
    hempty hprobe
  intro placeholder hmem
  obtain ⟨hdirect, hinner⟩ := hplain placeholder hmem
  exact Placeholder.exists_aligned hdirect hinner

theorem exists_injective_texts (htells : part.Tells)
    (hplain : ∀ placeholder, .hole placeholder ∈ first ++ part :: second →
      placeholder.Direct ∧ AllDirect placeholder.layout)
    {shown : List (List Char)}
    (hempty : Texts (expand [] 1) [] (first ++ part :: second) shown) {others : List (List Char)}
    (hprobe : Texts (expand probe 1) probe (first ++ part :: second) others) :
    ∃ f, Function.Injective f ∧ ∀ name, ∃ texts,
      Texts (expand name 1) name (first ++ part :: second) texts ∧ texts.flatten = f name := by
  obtain ⟨_, _, hempty₁, hempty, -⟩ := texts_append_iff.1 hempty
  obtain ⟨_, _, hprobe₁, hprobe, -⟩ := texts_append_iff.1 hprobe
  obtain ⟨_, _, hempty₂, hempty₃, -⟩ := List.forall₂_cons_left_iff.1 hempty
  obtain ⟨_, _, hprobe₂, hprobe₃, -⟩ := List.forall₂_cons_left_iff.1 hprobe
  simp only [List.mem_append, List.mem_cons] at hplain
  obtain ⟨before, hbefore, hfirst⟩ :=
    exists_aligned_texts (fun _ hmem => hplain _ (.inl hmem)) hempty₁ hprobe₁
  obtain ⟨f, hf, hpart⟩ :=
    exists_aligned_texts (fun _ hmem => hplain _ (.inr (.inl (List.mem_singleton.1 hmem))))
      (.cons hempty₂ .nil) (.cons hprobe₂ .nil)
  obtain ⟨after, hafter, hsecond⟩ :=
    exists_aligned_texts (fun _ hmem => hplain _ (.inr (.inr hmem))) hempty₃ hprobe₃
  have htext (name : List Char) : part.textOf (expand name 1) name = .ok (f name) := by
    obtain ⟨texts, htexts, hflatten⟩ := hpart name
    obtain ⟨text, rest, htext, hrest, rfl⟩ := List.forall₂_cons_left_iff.1 htexts
    cases hrest
    rw [← hflatten, List.flatten_singleton]
    exact htext
  have hapart : Function.Injective f := by
    intro name other hsame
    exact htells name other (f name) (htext name) (hsame ▸ htext other)
  refine ⟨_, hbefore.injective hf hafter hapart, fun name => ?_⟩
  obtain ⟨texts, htexts, hflatten⟩ := hfirst name
  obtain ⟨rest, hrest, hflatten'⟩ := hsecond name
  refine ⟨texts ++ f name :: rest, texts_append_iff.2 ⟨_, _, htexts, .cons (htext name) hrest, rfl⟩, ?_⟩
  rw [List.flatten_append, List.flatten_cons, hflatten, hflatten']

theorem pathOf_eq_ok_of_texts {template : String} {texts : List (List Char)} {name : String}
    {path : List Char} (hparts : Consists template.toList parts)
    (htexts : Texts (expand name.toList 1) name.toList parts texts) (hflatten : texts.flatten = path) :
    pathOf template name = .ok (String.ofList path) := by
  rw [pathOf_eq_ok_iff, String.toList_ofList]
  exact ⟨parts, texts, hparts, htexts, hflatten⟩

/-- What can be said of the resolver of a template. If no placeholder steps to a member of the name, two
names decide whether there is a path for every name, and a part that tells names apart whether these
differ. -/
structure Decides (template : String) (resolver : Resolver) : Prop where
  total_iff : Plain template.toList →
    (resolver.Total ↔ (∃ path, resolver "" = .ok path) ∧ ∃ path, resolver "xx" = .ok path)
  usable_iff : Plain template.toList → ∀ parts, Consists template.toList parts →
    (∃ part ∈ parts, part.Tells) → (resolver.Usable ↔ resolver.Total)
  named : Plain template.toList → ∀ parts, Consists template.toList parts → .hole .main ∈ parts →
    (resolver.Usable ↔ resolver.Total)
  nameless : ∀ parts, Consists template.toList parts → (∀ part ∈ parts, ∃ c, part = .mark c) →
    ∃ path, ∀ name, resolver name = .ok path
  malformed : (¬∃ parts, Consists template.toList parts) → ∀ name, ∃ fault, resolver name = .error fault

theorem total_iff_probed {template : String} (hplain : Plain template.toList) :
    Resolver.Total (pathOf template)
      ↔ (∃ path, pathOf template "" = .ok path) ∧ ∃ path, pathOf template "xx" = .ok path := by
  constructor
  · intro h
    exact ⟨h "", h "xx"⟩
  · rintro ⟨⟨_, hempty⟩, _, hprobe⟩ name
    obtain ⟨parts, shown, hparts, hempty, -⟩ := pathOf_eq_ok_iff.1 hempty
    obtain ⟨parts', others, hparts', hprobe, -⟩ := pathOf_eq_ok_iff.1 hprobe
    obtain rfl := hparts.unique hparts'
    obtain ⟨f, -, htexts⟩ := exists_aligned_texts (hplain _ hparts) hempty hprobe
    obtain ⟨texts, htexts, hflatten⟩ := htexts name.toList
    exact ⟨_, pathOf_eq_ok_of_texts hparts htexts hflatten⟩

/-- A template with a part that tells names apart has a different path for every name, if it has paths
for all of them. -/
theorem usable_iff_total {template : String} (hplain : Plain template.toList)
    (hparts : Consists template.toList parts)
    (htells : ∃ part ∈ parts, part.Tells) :
    Resolver.Usable (pathOf template) ↔ Resolver.Total (pathOf template) := by
  constructor
  · exact Resolver.Usable.total
  · intro htotal
    refine ⟨htotal, ?_⟩
    obtain ⟨part, hmem, htells⟩ := htells
    obtain ⟨first, second, rfl⟩ := List.append_of_mem hmem
    obtain ⟨_, hempty⟩ := htotal ""
    obtain ⟨_, hprobe⟩ := htotal "xx"
    obtain ⟨parts, shown, hparts₁, hempty, -⟩ := pathOf_eq_ok_iff.1 hempty
    obtain ⟨parts', others, hparts₂, hprobe, -⟩ := pathOf_eq_ok_iff.1 hprobe
    obtain rfl := hparts.unique hparts₁
    obtain rfl := hparts.unique hparts₂
    obtain ⟨f, hapart, htexts⟩ := exists_injective_texts htells (hplain _ hparts) hempty hprobe
    have hpath (name : String) : pathOf template name = .ok (String.ofList (f name.toList)) := by
      obtain ⟨texts, htexts, hflatten⟩ := htexts name.toList
      exact pathOf_eq_ok_of_texts hparts htexts hflatten
    intro name other hsame
    rw [hpath, hpath, Except.ok.injEq, String.ofList_inj] at hsame
    exact String.toList_injective (hapart hsame)

theorem exists_texts_of_marks (h : ∀ part ∈ parts, ∃ c, part = .mark c) :
    ∃ texts, ∀ expandLayout collection, Texts expandLayout collection parts texts := by
  induction parts with
  | nil => exact ⟨[], fun _ _ => .nil⟩
  | cons part parts ih =>
    obtain ⟨⟨c, rfl⟩, hrest⟩ := List.forall_mem_cons.1 h
    obtain ⟨texts, htexts⟩ := ih hrest
    exact ⟨[c] :: texts, fun expandLayout collection => .cons rfl (htexts expandLayout collection)⟩

/-- What the resolver of an accepted template can be used for. -/
theorem resolver_decided {template : String} {resolver : Resolver}
    (h : resolver? (some template) = .ok (some resolver)) : Decides template resolver := by
  obtain ⟨-, rfl⟩ := resolver?_eq_some_iff.1 h
  constructor
  case total_iff => exact total_iff_probed
  case usable_iff =>
    intro hplain parts hparts htells
    exact usable_iff_total hplain hparts htells
  case named =>
    intro hplain parts hparts hmain
    exact usable_iff_total hplain hparts ⟨.hole .main, hmain, main_tells⟩
  case nameless =>
    intro parts hparts hmarks
    obtain ⟨texts, htexts⟩ := exists_texts_of_marks hmarks
    exact ⟨_, fun name => pathOf_eq_ok_of_texts hparts (htexts _ _) rfl⟩
  case malformed =>
    intro hnone name
    cases hpath : pathOf template name with
    | error fault => exact ⟨fault, rfl⟩
    | ok path =>
      obtain ⟨parts, _, hparts, -⟩ := pathOf_eq_ok_iff.1 hpath
      exact absurd ⟨parts, hparts⟩ hnone

end

/-- The name in quotes, padded with its own first character, before the name. -/
def paddedTemplate : String := "\x7bcollection!r:\x7bcollection:.1\x7d>8\x7d/\x7bcollection\x7d"

theorem paddedTemplate_consists : Consists paddedTemplate.toList
    [.hole ⟨collectionName, some 'r', "\x7bcollection:.1\x7d>8".toList⟩, .mark '/', .hole .main] :=
  .hole rfl (.plain rfl (.hole rfl .nil))

theorem paddedTemplate_plain : Plain paddedTemplate.toList := by
  have hlayout : Consists "\x7bcollection:.1\x7d>8".toList
      [.hole ⟨collectionName, none, ".1".toList⟩, .mark '>', .mark '8'] :=
    .hole rfl (.plain rfl (.plain rfl .nil))
  intro parts hparts placeholder hmem
  obtain rfl := hparts.unique paddedTemplate_consists
  simp only [List.mem_cons, Part.hole.injEq, reduceCtorEq, List.not_mem_nil, or_false, false_or]
    at hmem
  rcases hmem with rfl | rfl
  · refine ⟨nofun, fun parts hparts inner hmem => ?_⟩
    obtain rfl := hparts.unique hlayout
    simp only [List.mem_cons, Part.hole.injEq, reduceCtorEq, List.not_mem_nil, or_false] at hmem
    obtain rfl := hmem
    exact nofun
  · refine ⟨nofun, fun parts hparts inner hmem => ?_⟩
    obtain rfl := consists_nil_iff.1 hparts
    cases hmem

theorem paddedTemplate_usable :
    @resolver? .bare (some paddedTemplate) = .ok (some (@pathOf .bare paddedTemplate))
      ∧ Plain paddedTemplate.toList
      ∧ @pathOf .bare paddedTemplate "note" = .ok "nn'note'/note"
      ∧ Resolver.Usable (@pathOf .bare paddedTemplate) := by
  let _ : Host := .bare
  have haccepted : resolver? (some paddedTemplate) = .ok (some (pathOf paddedTemplate)) := rfl
  have hdecided := resolver_decided haccepted
  have hempty : pathOf paddedTemplate "" = .ok "      ''/" := rfl
  have hprobe : pathOf paddedTemplate "xx" = .ok "xxxx'xx'/xx" := rfl
  have htotal := (hdecided.total_iff paddedTemplate_plain).2 ⟨⟨_, hempty⟩, _, hprobe⟩
  refine ⟨haccepted, paddedTemplate_plain, rfl, ?_⟩
  refine (hdecided.named paddedTemplate_plain _ paddedTemplate_consists ?_).2 htotal
  exact List.mem_cons_of_mem _ (List.mem_cons_of_mem _ List.mem_cons_self)

/-- A text with the placeholder in it is accepted where its braces only stand for themselves, and where
another brace is alone. -/
theorem escaped_not_usable :
    (∃ resolver, @resolver? .bare (some "\x7b\x7bcollection\x7d\x7d") = .ok (some resolver)
        ∧ (∀ name, resolver name = .ok "\x7bcollection\x7d") ∧ ¬resolver.Usable)
      ∧ ∃ resolver, @resolver? .bare (some "\x7bcollection\x7d\x7b") = .ok (some resolver)
        ∧ (∀ name, resolver name = .error .loneOpen) ∧ ¬resolver.Usable := by
  have hescaped (name : String) :
      @pathOf .bare "\x7b\x7bcollection\x7d\x7d" name = .ok "\x7bcollection\x7d" := rfl
  have hopen (name : String) : @pathOf .bare "\x7bcollection\x7d\x7b" name = .error .loneOpen := rfl
  refine ⟨⟨_, rfl, hescaped, fun husable => ?_⟩, _, rfl, hopen, fun husable => ?_⟩
  · have hsame := husable.apart ((hescaped "note").trans (hescaped "list").symm)
    exact absurd hsame (by decide)
  · obtain ⟨path, hpath⟩ := husable.total "note"
    cases (hopen "note").symm.trans hpath

end StorageTypes.ImportPath
