import StorageTypes.Proofs.Loading
import StorageTypes.Proofs.Readings

namespace StorageTypes

open Json (Value)

namespace Text

def hissingEndings : List String := ["s", "x", "z", "ch", "sh"]

/-- A name and a longer one with the same plural: the longer one has an `e` after a hissing ending, or
`ie` in place of a `y` that comes after anything but a vowel. -/
inductive SharesPlural : String → String → Prop where
  | hissing {name ending : String} (h : ending ∈ hissingEndings)
      (hname : ending.toList <:+ name.toList) : SharesPlural name (name ++ "e")
  | consonant {stem : String} {c : Char} (hlast : stem.toList.getLast? = some c)
      (hc : c ∉ "aeiou".toList) : SharesPlural (stem ++ "y") (stem ++ "ie")

def EndsInLine (name : String) : Prop :=
  name.toList.getLast? ≠ some '\n'

instance (name : String) : Decidable (EndsInLine name) :=
  inferInstanceAs (Decidable (name.toList.getLast? ≠ some '\n'))

variable {name other stem ending plural : String} {c : Char}

theorem isVowel_eq_false_iff : isVowel c = false ↔ c ∉ "aeiou".toList := by
  simp [isVowel, and_assoc]

theorem endsInConsonantY_iff : endsInConsonantY name.toList = true
    ↔ ∃ stem c, stem.toList.getLast? = some c ∧ c ∉ "aeiou".toList ∧ name = stem ++ "y" := by
  constructor
  · intro h
    simp only [endsInConsonantY] at h
    split at h
    next c rest hreverse =>
      have hchars : name.toList = rest.reverse ++ [c] ++ ['y'] := by
        rw [← List.reverse_reverse name.toList, hreverse]
        simp
      refine ⟨String.ofList (rest.reverse ++ [c]), c, by simp,
        isVowel_eq_false_iff.1 (by simpa using h), ?_⟩
      rw [← String.toList_inj, hchars]
      simp
    · cases h
  · intro h
    obtain ⟨stem, c, hlast, hc, rfl⟩ := h
    obtain ⟨front, hfront⟩ := List.getLast?_eq_some_iff.1 hlast
    simp [endsInConsonantY, hfront, isVowel_eq_false_iff.2 hc]

theorem endsInSibilant_iff : endsInSibilant name.toList = true
    ↔ ∃ ending ∈ hissingEndings, ending.toList <:+ name.toList := by
  simp only [hissingEndings, List.exists_mem_cons_iff, List.not_mem_nil, false_and, exists_false,
    or_false, ← List.reverse_prefix, endsInSibilant]
  generalize name.toList.reverse = reversed
  split
  case h_6 hs hx hz hch hsh =>
    simp only [Bool.false_eq_true, false_iff]
    rintro (⟨rest, rfl⟩ | ⟨rest, rfl⟩ | ⟨rest, rfl⟩ | ⟨rest, rfl⟩ | ⟨rest, rfl⟩)
    · exact hs rest rfl
    · exact hx rest rfl
    · exact hz rest rfl
    · exact hch rest rfl
    · exact hsh rest rfl
  all_goals simp [List.cons_prefix_cons]

theorem dropFinalBreak_eq (h : EndsInLine name) : dropFinalBreak name.toList = name.toList := by
  simp only [dropFinalBreak]
  split
  next rest hreverse =>
    rw [EndsInLine, List.getLast?_eq_head?_reverse, hreverse] at h
    exact absurd rfl h
  · rfl

theorem pluralize_eq (h : EndsInLine name) : pluralize name
    = if endsInConsonantY name.toList then String.ofList (name.toList.dropLast ++ "ies".toList)
      else if endsInSibilant name.toList then name ++ "es" else name ++ "s" := by
  rw [pluralize, pluralChars, dropFinalBreak_eq h, Bool.or_self, Bool.or_self]
  split
  · rfl
  · split <;> rw [String.ofList_append, String.ofList_toList]

theorem pluralize_consonant (hlast : stem.toList.getLast? = some c) (hc : c ∉ "aeiou".toList) :
    pluralize (stem ++ "y") = stem ++ "ies" := by
  have hconsonant := endsInConsonantY_iff.2 ⟨stem, c, hlast, hc, rfl⟩
  have hline : EndsInLine (stem ++ "y") := by simp [EndsInLine]
  rw [pluralize_eq hline, if_pos hconsonant, ← String.toList_inj]
  simp

theorem getLast?_of_hissing (h : ending ∈ hissingEndings) (hname : ending.toList <:+ name.toList) :
    ∃ c ∈ "sxzh".toList, name.toList.getLast? = some c := by
  obtain ⟨front, hfront⟩ := hname
  rw [← hfront, List.getLast?_append]
  simp only [hissingEndings, List.mem_cons, List.not_mem_nil, or_false] at h
  rcases h with rfl | rfl | rfl | rfl | rfl
  · exact ⟨'s', by decide, rfl⟩
  · exact ⟨'x', by decide, rfl⟩
  · exact ⟨'z', by decide, rfl⟩
  · exact ⟨'h', by decide, rfl⟩
  · exact ⟨'h', by decide, rfl⟩

theorem not_endsInConsonantY (h : name.toList.getLast? = some c) (hc : c ≠ 'y') :
    ¬endsInConsonantY name.toList = true := by
  intro hconsonant
  obtain ⟨stem, -, -, -, rfl⟩ := endsInConsonantY_iff.1 hconsonant
  simp [eq_comm, hc] at h

theorem not_hissing (h : name.toList.getLast? = some c) (hc : c ∉ "sxzh".toList) :
    ¬∃ ending ∈ hissingEndings, ending.toList <:+ name.toList := by
  intro hhissing
  obtain ⟨ending, hending, hname⟩ := hhissing
  obtain ⟨last, hlast, hsame⟩ := getLast?_of_hissing hending hname
  rw [h, Option.some.injEq] at hsame
  exact hc (hsame ▸ hlast)

theorem pluralize_hissing (h : ending ∈ hissingEndings) (hname : ending.toList <:+ name.toList) :
    pluralize name = name ++ "es" := by
  obtain ⟨last, hlast, hsame⟩ := getLast?_of_hissing h hname
  have hline : EndsInLine name := by
    rw [EndsInLine, hsame]
    rintro ⟨⟩
    exact absurd hlast (by decide)
  have hy : last ≠ 'y' := by
    rintro rfl
    exact absurd hlast (by decide)
  rw [pluralize_eq hline, if_neg (not_endsInConsonantY hsame hy),
    if_pos (endsInSibilant_iff.2 ⟨ending, h, hname⟩)]

theorem pluralize_append_e (name : String) : pluralize (name ++ "e") = name ++ "e" ++ "s" := by
  have hlast : (name ++ "e").toList.getLast? = some 'e' := by simp
  have hline : EndsInLine (name ++ "e") := by simp [EndsInLine]
  rw [pluralize_eq hline, if_neg (not_endsInConsonantY hlast (by decide)),
    if_neg (mt endsInSibilant_iff.1 (not_hissing hlast (by decide)))]

/-- How a name becomes its plural, if no line break ends it. -/
inductive Pluralised : String → String → Prop where
  | consonant {stem : String} {c : Char} (hlast : stem.toList.getLast? = some c)
      (hc : c ∉ "aeiou".toList) : Pluralised (stem ++ "y") (stem ++ "ies")
  | hissing {name ending : String} (h : ending ∈ hissingEndings)
      (hname : ending.toList <:+ name.toList) : Pluralised name (name ++ "es")
  | plain (name : String) : Pluralised name (name ++ "s")

theorem pluralised (h : EndsInLine name) : Pluralised name (pluralize name) := by
  by_cases hconsonant : endsInConsonantY name.toList = true
  · obtain ⟨stem, c, hlast, hc, rfl⟩ := endsInConsonantY_iff.1 hconsonant
    rw [pluralize_consonant hlast hc]
    exact .consonant hlast hc
  rw [pluralize_eq h, if_neg hconsonant]
  by_cases hsibilant : endsInSibilant name.toList = true
  · obtain ⟨ending, hending, hname⟩ := endsInSibilant_iff.1 hsibilant
    rw [if_pos hsibilant]
    exact .hissing hending hname
  · rw [if_neg hsibilant]
    exact .plain name

theorem append_ies (stem : String) : stem ++ "ies" = stem ++ "ie" ++ "s" := by
  rw [String.append_assoc]
  rfl

theorem append_es (name : String) : name ++ "es" = name ++ "e" ++ "s" := by
  rw [String.append_assoc]
  rfl

theorem append_ie (stem : String) : stem ++ "ie" = stem ++ "i" ++ "e" := by
  rw [String.append_assoc]
  rfl

theorem SharesPlural.pluralize_eq (h : SharesPlural name other) :
    pluralize name = pluralize other := by
  cases h with
  | hissing hending hname => rw [pluralize_hissing hending hname, pluralize_append_e, append_es]
  | consonant hlast hc =>
    rw [pluralize_consonant hlast hc, append_ie, pluralize_append_e, ← append_ie, append_ies]

theorem consonant_ne_hissing (h : ending ∈ hissingEndings) (hname : ending.toList <:+ name.toList) :
    stem ++ "ies" ≠ name ++ "es" := by
  intro heq
  rw [append_ies, append_es, String.append_left_inj, append_ie, String.append_left_inj] at heq
  have hlast : name.toList.getLast? = some 'i' := by simp [← heq]
  exact not_hissing hlast (by decide) ⟨ending, h, hname⟩

theorem shares_of_consonant (hlast : stem.toList.getLast? = some c) (hc : c ∉ "aeiou".toList)
    (h : stem ++ "ies" = other ++ "s") : SharesPlural (stem ++ "y") other := by
  rw [append_ies, String.append_left_inj] at h
  rw [← h]
  exact .consonant hlast hc

theorem shares_of_hissing (hending : ending ∈ hissingEndings)
    (hname : ending.toList <:+ name.toList) (h : name ++ "es" = other ++ "s") :
    SharesPlural name other := by
  rw [append_es, String.append_left_inj] at h
  rw [← h]
  exact .hissing hending hname

theorem Pluralised.eq_or_shares (hname : Pluralised name plural) (hother : Pluralised other plural) :
    name = other ∨ SharesPlural name other ∨ SharesPlural other name := by
  generalize hsame : plural = same at hother
  cases hname with
  | consonant hlast hc =>
    cases hother with
    | consonant => exact .inl (by rw [(String.append_left_inj "ies").1 hsame])
    | hissing hending hends => exact absurd hsame (consonant_ne_hissing hending hends)
    | plain => exact .inr (.inl (shares_of_consonant hlast hc hsame))
  | hissing hending hends =>
    cases hother with
    | consonant => exact absurd hsame.symm (consonant_ne_hissing hending hends)
    | hissing => exact .inl ((String.append_left_inj "es").1 hsame)
    | plain => exact .inr (.inl (shares_of_hissing hending hends hsame))
  | plain =>
    cases hother with
    | consonant hlast hc => exact .inr (.inr (shares_of_consonant hlast hc hsame.symm))
    | hissing hending hends => exact .inr (.inr (shares_of_hissing hending hends hsame.symm))
    | plain => exact .inl ((String.append_left_inj "s").1 hsame)

theorem SharesPlural.getLast?_right (h : SharesPlural name other) :
    other.toList.getLast? = some 'e' := by
  cases h with
  | hissing _ _ => simp
  | consonant _ _ => simp

theorem SharesPlural.getLast?_left (h : SharesPlural name other) :
    name.toList.getLast? ≠ some 'e' := by
  cases h with
  | hissing hending hname =>
    intro hlast
    exact not_hissing hlast (by decide) ⟨_, hending, hname⟩
  | consonant _ _ => simp

theorem SharesPlural.not_trans {third : String} (h : SharesPlural name other) :
    ¬SharesPlural other third :=
  fun hother => hother.getLast?_left h.getLast?_right

section

variable {third : String} (hname : EndsInLine name) (hother : EndsInLine other)

include hname hother

theorem eq_or_shares_of_pluralize (h : pluralize name = pluralize other) :
    name = other ∨ SharesPlural name other ∨ SharesPlural other name :=
  (pluralised hname).eq_or_shares (h ▸ pluralised hother)

theorem pluralize_eq_iff (hne : name ≠ other) :
    pluralize name = pluralize other ↔ SharesPlural name other ∨ SharesPlural other name := by
  constructor
  · intro h
    exact (eq_or_shares_of_pluralize hname hother h).resolve_left hne
  · intro h
    rcases h with hshares | hshares
    · exact hshares.pluralize_eq
    · exact hshares.pluralize_eq.symm

theorem eq_of_pluralize (hthird : EndsInLine third) (h : pluralize name = pluralize other)
    (h' : pluralize other = pluralize third) : name = other ∨ other = third ∨ name = third := by
  rcases eq_or_shares_of_pluralize hname hother h with heq | hfirst | hfirst
  · exact .inl heq
  all_goals rcases eq_or_shares_of_pluralize hother hthird h' with heq | hsecond | hsecond
  · exact .inr (.inl heq)
  · exact absurd hsecond hfirst.not_trans
  · rcases eq_or_shares_of_pluralize hname hthird (h.trans h') with heq | hlast | hlast
    · exact .inr (.inr heq)
    · exact absurd hsecond hlast.not_trans
    · exact absurd hfirst hlast.not_trans
  · exact .inr (.inl heq)
  · rcases eq_or_shares_of_pluralize hname hthird (h.trans h') with heq | hlast | hlast
    · exact .inr (.inr heq)
    · exact absurd hlast hfirst.not_trans
    · exact absurd hlast hsecond.not_trans
  · exact absurd hfirst hsecond.not_trans

end

end Text

/-- Links that a definition without a reverse alias describes. -/
def ChildOf.IsDefault (link : ChildOf) (source : String) : Prop :=
  ∃ definition, Relationship.Reads source definition (.childOf link)
    ∧ (definition.entry "reverseAlias").isGiven = false

def Registry.Declares (registry : Registry) (name : String) (link : ChildOf) : Prop :=
  ∃ collection, (name, collection) ∈ registry.collections ∧ .childOf link ∈ collection.relationships

/-- Links of two collections that no registry can show both. -/
def LinksClash (name : String) (link : ChildOf) (other : String) (otherLink : ChildOf) : Prop :=
  ∀ registry : Registry, registry.Reachable → registry.Declares name link →
    registry.Declares other otherLink → registry.finish.2 ≠ .ok ()

/-- When links of two collections have the same alias by default. -/
def SameDefault (name : String) (single : Bool) (other : String) (otherSingle : Bool) : Prop :=
  match single, otherSingle with
  | false, false => Text.SharesPlural name other ∨ Text.SharesPlural other name
  | true, false => name = Text.pluralize other
  | false, true => other = Text.pluralize name
  | true, true => False

variable {name other : String} {link otherLink : ChildOf} {registry : Registry}

theorem ChildOf.IsDefault.source_eq (h : link.IsDefault name) : link.source = name := by
  obtain ⟨definition, hreads, -⟩ := h
  cases hreads with
  | single _ hlink => exact hlink.source
  | several _ _ hlink => exact hlink.source

theorem ChildOf.IsDefault.reverseAlias_eq (h : link.IsDefault name) :
    link.reverseAlias = if link.single then name else Text.pluralize name := by
  obtain ⟨definition, hreads, hnone⟩ := h
  have hreads' : ∃ single target, ChildOf.Reads name single target definition link := by
    cases hreads with
    | single _ hlink => exact ⟨_, _, hlink⟩
    | several _ _ hlink => exact ⟨_, _, hlink⟩
  obtain ⟨single, target, hlink⟩ := hreads'
  have hdefault := hlink.reverseAlias
  rw [Json.Value.orElse, hnone, if_neg Bool.false_ne_true, Json.Value.str.injEq] at hdefault
  rw [← hdefault, hlink.single]

theorem reverseAlias_eq_iff (hname : Text.EndsInLine name) (hother : Text.EndsInLine other)
    (hne : name ≠ other) (hlink : link.IsDefault name) (hotherLink : otherLink.IsDefault other) :
    link.reverseAlias = otherLink.reverseAlias
      ↔ SameDefault name link.single other otherLink.single := by
  rw [hlink.reverseAlias_eq, hotherLink.reverseAlias_eq]
  cases link.single <;> cases otherLink.single
  · exact Text.pluralize_eq_iff hname hother hne
  · exact eq_comm
  · exact Iff.rfl
  · exact ⟨hne, False.elim⟩

theorem Registry.Declares.mem_scan (h : registry.Declares name link) :
    (link.reverseAlias, .childOf link) ∈ registry.scan link.target := by
  obtain ⟨collection, hcollection, hlink⟩ := h
  refine List.mem_flatMap.2 ⟨collection, Dictionary.mem_values.2 ⟨name, hcollection⟩, ?_⟩
  refine List.mem_flatMap.2 ⟨.childOf link, hlink, ?_⟩
  simp [Relationship.shownOn]

def Collection.withLink (link : ChildOf) : Collection :=
  { name := link.source, relationships := [.childOf link] }

def Registry.ofLinks (link otherLink : ChildOf) : Registry where
  collections :=
    (link.source, .withLink link) :: (otherLink.source, .withLink otherLink)
      :: if link.target ∈ [link.source, otherLink.source] then []
        else [(link.target, { name := link.target })]

theorem Registry.ofLinks_reachable (hne : link.source ≠ otherLink.source) :
    (Registry.ofLinks link otherLink).Reachable := by
  have hboth : Reachable ⟨[(link.source, .withLink link), (otherLink.source, .withLink otherLink)],
      false⟩ := by
    refine ⟨[.registerModel link.source (.withLink link),
      .registerModel otherLink.source (.withLink otherLink)], ?_⟩
    simp [run, change, registerModel, place, Registry.empty, Dictionary.put, hne,
      Collection.withLink]
  by_cases h : link.target ∈ [link.source, otherLink.source]
  · rw [ofLinks, if_pos h]
    exact hboth
  · have hall := hboth.change (.registerModel link.target { name := link.target })
    simp only [List.mem_cons, List.not_mem_nil, or_false, not_or] at h
    simpa [change, registerModel, place, Dictionary.put, ofLinks, h, Ne.symm h.1, Ne.symm h.2]
      using hall

theorem Registry.ofLinks_scan (link otherLink : ChildOf) (name : String) :
    (Registry.ofLinks link otherLink).scan name
      = Relationship.shownOn name (.childOf link) ++ Relationship.shownOn name (.childOf otherLink) := by
  simp only [scan, ofLinks, Dictionary.values]
  split <;> simp [Collection.withLink]

theorem Registry.mem_ofLinks {collection : Collection}
    (h : collection ∈ Dictionary.values (Registry.ofLinks link otherLink).collections) :
    ∃ links ∈ [[link], [otherLink], []], collection.relationships = links.map .childOf := by
  simp only [ofLinks, Dictionary.values, List.map_cons, List.mem_cons] at h
  rcases h with rfl | rfl | hrest
  · exact ⟨[link], by simp, rfl⟩
  · exact ⟨[otherLink], by simp, rfl⟩
  · split at hrest
    · cases hrest
    · obtain rfl := List.mem_singleton.1 hrest
      exact ⟨[], by simp, rfl⟩

theorem Registry.target_mem_ofLinks (link otherLink : ChildOf) :
    link.target ∈ (Registry.ofLinks link otherLink).names := by
  simp only [names, ofLinks, Dictionary.names, List.map_cons]
  split
  next h => simpa using h
  · simp

theorem Registry.ofLinks_linkable (htarget : link.target = otherLink.target)
    (halias : link.reverseAlias ≠ otherLink.reverseAlias) :
    Linkable (Registry.ofLinks link otherLink).collections := by
  rw [linkable_iff]
  refine ⟨?_, ?_, ?_⟩
  · intro collection hcollection
    obtain ⟨links, hlinks, hdeclared⟩ := mem_ofLinks hcollection
    rw [Collection.forwardAliases, hdeclared]
    simp only [List.mem_cons, List.not_mem_nil, or_false] at hlinks
    rcases hlinks with rfl | rfl | rfl <;> simp [Relationship.forwardAliases]
  · intro collection hcollection relationship hrelationship name hname
    obtain ⟨links, hlinks, hdeclared⟩ := mem_ofLinks hcollection
    have hthere := target_mem_ofLinks link otherLink
    simp only [List.mem_cons, List.not_mem_nil, or_false] at hlinks
    rw [hdeclared] at hrelationship
    rcases hlinks with rfl | rfl | rfl
    · rw [List.mem_singleton.1 hrelationship] at hname
      rwa [List.mem_singleton.1 hname]
    · rw [List.mem_singleton.1 hrelationship] at hname
      rwa [List.mem_singleton.1 hname, ← htarget]
    · cases hrelationship
  · intro name _
    rw [ofLinks_scan]
    by_cases hname : link.target = name
    · simp [Relationship.shownOn, hname, ← htarget, Dictionary.names, halias]
    · simp [Relationship.shownOn, hname, ← htarget, Dictionary.names]

theorem linksClash_iff (hlink : link.source = name) (hother : otherLink.source = other)
    (hne : name ≠ other) (htarget : link.target = otherLink.target) :
    LinksClash name link other otherLink ↔ link.reverseAlias = otherLink.reverseAlias := by
  subst hlink hother
  constructor
  · intro h
    by_contra halias
    refine h (Registry.ofLinks link otherLink) (Registry.ofLinks_reachable hne) ?_ ?_
      ((Registry.finish_eq_ok_iff _).2 (Registry.ofLinks_linkable htarget halias))
    · exact ⟨.withLink link, List.mem_cons_self, List.mem_cons_self⟩
    · exact ⟨.withLink otherLink, List.mem_cons_of_mem _ List.mem_cons_self, List.mem_cons_self⟩
  · intro halias registry _ hdeclares hotherDeclares hfinish
    obtain ⟨-, htargets, hdistinct⟩ :=
      (linkable_iff registry).1 ((Registry.finish_eq_ok_iff registry).1 hfinish)
    have hshown := hdeclares.mem_scan
    have hotherShown := hotherDeclares.mem_scan
    rw [← htarget, ← halias] at hotherShown
    have htargetName : link.target ∈ registry.names := by
      obtain ⟨collection, hcollection, hmem⟩ := hdeclares
      exact htargets collection (Dictionary.mem_values.2 ⟨_, hcollection⟩) _ hmem _ List.mem_cons_self
    have hfind := Dictionary.find?_of_mem (hdistinct _ htargetName) hshown
    rw [Dictionary.find?_of_mem (hdistinct _ htargetName) hotherShown, Option.some.injEq,
      Relationship.childOf.injEq] at hfind
    exact hne (by rw [hfind])

/-- Two names have one plural exactly if one has an `e` after the hissing ending of the other, or `ie`
in place of its `y`, and no third name has it. Links of two collections to one target, both with the
alias that they have by default, clash exactly if these are two such plurals, or if the name of the one
that stands for itself is the plural of the other. -/
theorem defaults_clash (hname : Text.EndsInLine name) (hother : Text.EndsInLine other)
    (hne : name ≠ other) :
    (Text.pluralize name = Text.pluralize other
      ↔ Text.SharesPlural name other ∨ Text.SharesPlural other name)
    ∧ (Text.pluralize name = Text.pluralize other → ∀ third, Text.EndsInLine third →
        Text.pluralize third = Text.pluralize name → third = name ∨ third = other)
    ∧ ∀ link otherLink : ChildOf, link.IsDefault name → otherLink.IsDefault other →
        link.target = otherLink.target →
          (LinksClash name link other otherLink
            ↔ SameDefault name link.single other otherLink.single) := by
  refine ⟨Text.pluralize_eq_iff hname hother hne, ?_, ?_⟩
  · intro hsame third hthird hplural
    rcases Text.eq_of_pluralize hthird hname hother hplural hsame with heq | heq | heq
    · exact .inl heq
    · exact absurd heq hne
    · exact .inr heq
  · intro link otherLink hlink hotherLink htarget
    rw [linksClash_iff hlink.source_eq hotherLink.source_eq hne htarget,
      reverseAlias_eq_iff hname hother hne hlink hotherLink]

theorem ChildOf.isDefault_of_ofDefinition (definition : Value)
    (h : Relationship.ofDefinition name definition = .ok (.childOf link))
    (hnone : (definition.entry "reverseAlias").isGiven = false) : link.IsDefault name :=
  ⟨definition, Relationship.reads_iff.1 h, hnone⟩

def listLink (single : Bool) (source reverseAlias : String) : ChildOf :=
  ⟨"list", reverseAlias, single, source, "list", some "list"⟩

def severalDefinition : Value := .obj [("childOf", .str "list")]

def singleDefinition : Value := .obj [("singleChildOf", .str "list")]

theorem city_citie_clash :
    Text.EndsInLine "city" ∧ Text.EndsInLine "citie" ∧ "city" ≠ "citie"
      ∧ Text.pluralize "city" = "cities" ∧ Text.pluralize "citie" = "cities"
      ∧ Text.SharesPlural "city" "citie"
      ∧ (listLink false "city" "cities").IsDefault "city"
      ∧ (listLink false "citie" "cities").IsDefault "citie"
      ∧ LinksClash "city" (listLink false "city" "cities") "citie"
        (listLink false "citie" "cities") := by
  have hcity : Text.EndsInLine "city" := by decide
  have hcitie : Text.EndsInLine "citie" := by decide
  have hlink : (listLink false "city" "cities").IsDefault "city" :=
    ChildOf.isDefault_of_ofDefinition severalDefinition rfl rfl
  have hother : (listLink false "citie" "cities").IsDefault "citie" :=
    ChildOf.isDefault_of_ofDefinition severalDefinition rfl rfl
  have hshares : Text.SharesPlural "city" "citie" :=
    @Text.SharesPlural.consonant "cit" 't' rfl (by decide)
  obtain ⟨hplural, -, hclash⟩ := defaults_clash hcity hcitie (by decide)
  have hboth := hplural.2 (.inl hshares)
  exact ⟨hcity, hcitie, by decide, rfl, rfl, hshares, hlink, hother,
    (hclash _ _ hlink hother rfl).2 (.inl hshares)⟩

def notesSchema : List (String × Value) :=
  [("list", .obj []), ("note", .obj [("relationships", .arr [severalDefinition])]),
    ("notes", .obj [("relationships", .arr [singleDefinition])])]

/-- Where there is one record the alias is the name of the collection, which may be a plural already. -/
theorem note_notes_clash :
    Text.EndsInLine "note" ∧ Text.EndsInLine "notes"
      ∧ ¬(Text.SharesPlural "note" "notes" ∨ Text.SharesPlural "notes" "note")
      ∧ (listLink false "note" "notes").IsDefault "note"
      ∧ (listLink true "notes" "notes").IsDefault "notes"
      ∧ LinksClash "note" (listLink false "note" "notes") "notes" (listLink true "notes" "notes")
      ∧ (Registry.ofDefinitions (.obj notesSchema)).result
        = .error (.schema (.badDefinition "list"
          "reverse relationship alias 'notes' is used more than once")) := by
  have hnote : Text.EndsInLine "note" := by decide
  have hnotes : Text.EndsInLine "notes" := by decide
  have hlink : (listLink false "note" "notes").IsDefault "note" :=
    ChildOf.isDefault_of_ofDefinition severalDefinition rfl rfl
  have hother : (listLink true "notes" "notes").IsDefault "notes" :=
    ChildOf.isDefault_of_ofDefinition singleDefinition rfl rfl
  have hplurals : Text.pluralize "note" ≠ Text.pluralize "notes" := by decide
  refine ⟨hnote, hnotes, ?_, hlink, hother,
    (linksClash_iff hlink.source_eq hother.source_eq (by decide) rfl).2 rfl, rfl⟩
  rwa [← Text.pluralize_eq_iff hnote hnotes (by decide)]

end StorageTypes
