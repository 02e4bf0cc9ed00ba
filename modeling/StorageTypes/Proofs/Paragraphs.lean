import StorageTypes.Proofs.Resolution
import StorageTypes.Proofs.TypeNames

namespace StorageTypes

namespace Text

variable {a b text separator : String} {parts : List String} {first : List Char}
  {others : List (List Char)} {c : Char}

/-- A text divided at every blank line, from the left. -/
def cuts : List Char → List (List Char)
  | [] => [[]]
  | '\n' :: '\n' :: rest => [] :: cuts rest
  | c :: rest => (cuts rest).modifyHead (c :: ·)

def paragraphs (text : String) : List String :=
  (cuts text.toList).map String.ofList

/-- Texts that neither have a blank line nor make one together with a line break after them. -/
def Unbroken (text : List Char) : Prop :=
  ¬['\n', '\n'] <:+: text ++ ['\n']

theorem cuts_cons {rest : List Char} (h : ¬['\n', '\n'] <+: c :: rest) :
    cuts (c :: rest) = (cuts rest).modifyHead (c :: ·) := by
  apply cuts.eq_3
  intro more hc hrest
  apply h
  rw [hc, hrest]
  exact List.prefix_append _ more

theorem cuts_ne_nil (text : List Char) : cuts text ≠ [] := by
  induction text using cuts.induct with
  | case1 => exact List.cons_ne_nil _ _
  | case2 rest ih => exact List.cons_ne_nil _ _
  | case3 c rest hmark ih => rwa [cuts.eq_3 c rest hmark, ne_eq, List.modifyHead_eq_nil_iff]

theorem glue_cuts (text : List Char) : glue ['\n', '\n'] (cuts text) = text := by
  induction text using cuts.induct with
  | case1 => rfl
  | case2 rest ih =>
    rw [cuts, glue_cons _ (cuts_ne_nil rest), ih]
    rfl
  | case3 c rest hmark ih =>
    obtain ⟨first, others, hcuts⟩ := List.exists_cons_of_ne_nil (cuts_ne_nil rest)
    rw [hcuts] at ih
    rw [cuts.eq_3 c rest hmark, hcuts, List.modifyHead_cons]
    cases others with
    | nil => exact congrArg (c :: ·) ih
    | cons next more => exact congrArg (c :: ·) ih

theorem join_paragraphs (text : String) : join "\n\n" (paragraphs text) = text := by
  rw [join, paragraphs, map_toList_ofList]
  exact (congrArg String.ofList (glue_cuts text.toList)).trans String.ofList_toList

example : paragraphs "a\n\n\nb" = ["a", "\nb"] := by decide

theorem Unbroken.of_cons (h : Unbroken (c :: first)) : Unbroken first := by
  intro hinner
  exact h (hinner.trans (List.suffix_cons c _).isInfix)

theorem Unbroken.not_blank_start (h : Unbroken (c :: first)) (rest : List Char) :
    ¬['\n', '\n'] <+: c :: (first ++ '\n' :: rest) := by
  intro hstart
  apply h
  cases first with
  | nil =>
    have hc : '\n' = c := by simpa using hstart
    subst hc
    exact List.infix_refl _
  | cons d more =>
    apply List.IsPrefix.isInfix
    simpa using hstart

theorem cuts_of_unbroken (h : Unbroken first) : cuts first = [first] := by
  induction first with
  | nil => rfl
  | cons c more ih =>
    have hstart : ¬['\n', '\n'] <+: c :: more := by
      intro hstart
      exact h (hstart.isInfix.trans (List.prefix_append _ _).isInfix)
    rw [cuts_cons hstart, ih h.of_cons]
    rfl

theorem cuts_append (h : Unbroken first) (rest : List Char) :
    cuts (first ++ '\n' :: '\n' :: rest) = first :: cuts rest := by
  induction first with
  | nil => rfl
  | cons c more ih =>
    rw [List.cons_append, cuts_cons (h.not_blank_start ('\n' :: rest)), ih h.of_cons]
    rfl

theorem cuts_glue (h : ∀ piece ∈ first :: others, Unbroken piece) :
    cuts (glue ['\n', '\n'] (first :: others)) = first :: others := by
  induction others generalizing first with
  | nil => exact cuts_of_unbroken (h first List.mem_cons_self)
  | cons next rest ih =>
    have hrest := ih fun piece hpiece => h piece (List.mem_cons_of_mem _ hpiece)
    have hfirst := cuts_append (h first List.mem_cons_self) (glue ['\n', '\n'] (next :: rest))
    rw [hrest] at hfirst
    rw [glue, ← hfirst, List.append_assoc]
    rfl

/-- Texts that have a character on every line. -/
def Filled (text : List Char) : Prop :=
  [] ∉ pieces '\n' text

theorem Filled.ne_nil (h : Filled first) : first ≠ [] := by
  intro hempty
  subst hempty
  exact h List.mem_cons_self

theorem Filled.getLast?_ne (h : Filled first) : first.getLast? ≠ some '\n' := by
  intro hlast
  obtain ⟨front, rfl⟩ := List.getLast?_eq_some_iff.1 hlast
  apply h
  rw [pieces_append_mark]
  exact List.mem_append_right _ List.mem_cons_self

theorem Filled.unbroken (h : Filled first) : Unbroken first := by
  intro hblank
  obtain ⟨front, back, hsplit⟩ := hblank
  have hleft : front ++ ['\n', '\n'] ++ back = front ++ '\n' :: ([] ++ '\n' :: back) := by simp
  have hpieces : pieces '\n' front ++ [] :: pieces '\n' back = pieces '\n' first ++ [[]] := by
    have hboth := congrArg (pieces '\n') (hleft.symm.trans hsplit)
    rwa [pieces_append_mark, pieces_append_mark, pieces_append_mark] at hboth
  have hinit := congrArg List.dropLast hpieces
  rw [List.dropLast_concat, List.dropLast_append_of_ne_nil (List.cons_ne_nil _ _),
    List.dropLast_cons_of_ne_nil (pieces_ne_nil _ _)] at hinit
  apply h
  rw [← hinit]
  exact List.mem_append_right _ List.mem_cons_self

theorem filled_append (hfirst : '\n' ∉ first) (hne : first ≠ []) {rest : List Char}
    (hrest : Filled rest) : Filled (first ++ '\n' :: rest) := by
  rw [Filled, pieces_append hfirst, List.mem_cons, not_or]
  exact ⟨hne.symm, hrest⟩

theorem filled_glue {lines : List (List Char)} (hne : lines ≠ [])
    (h : ∀ line ∈ lines, '\n' ∉ line ∧ line ≠ []) : Filled (glue ['\n'] lines) := by
  obtain ⟨first, others, rfl⟩ := List.exists_cons_of_ne_nil hne
  rw [Filled, pieces_glue fun line hline => (h line hline).1]
  intro hempty
  exact (h [] hempty).2 rfl

theorem toList_indent (text : String) :
    (indent text).toList
      = glue ['\n'] ((pieces '\n' text.toList).map (margin.toList ++ ·)) := by
  simp [indent, join, lines, Function.comp_def, String.toList_append]

theorem filled_indent (text : String) : Filled (indent text).toList := by
  rw [toList_indent]
  apply filled_glue
  · simp [pieces_ne_nil]
  · intro shifted hshifted
    obtain ⟨line, hline, rfl⟩ := List.mem_map.1 hshifted
    have hbreak := not_mem_of_mem_pieces hline
    simp [margin, hbreak]

def OneLine (text : String) : Prop :=
  '\n' ∉ text.toList

instance (text : String) : Decidable (OneLine text) :=
  inferInstanceAs (Decidable ('\n' ∉ text.toList))

theorem oneLine_append : OneLine (a ++ b) ↔ OneLine a ∧ OneLine b := by
  simp [OneLine, String.toList_append]

theorem mem_glue {separator : List Char} (h : c ∈ glue separator others) :
    c ∈ separator ∨ ∃ piece ∈ others, c ∈ piece := by
  induction others with
  | nil => exact absurd h List.not_mem_nil
  | cons piece rest ih =>
    cases rest with
    | nil => exact .inr ⟨piece, List.mem_cons_self, h⟩
    | cons next more =>
      rw [glue, List.mem_append, List.mem_append] at h
      rcases h with (hpiece | hseparator) | hrest
      · exact .inr ⟨piece, List.mem_cons_self, hpiece⟩
      · exact .inl hseparator
      · rcases ih hrest with hseparator | ⟨other, hother, hc⟩
        · exact .inl hseparator
        · exact .inr ⟨other, List.mem_cons_of_mem _ hother, hc⟩

theorem oneLine_join (hseparator : OneLine separator) (hparts : ∀ part ∈ parts, OneLine part) :
    OneLine (join separator parts) := by
  intro hbreak
  rw [join, String.toList_ofList] at hbreak
  rcases mem_glue hbreak with hmark | ⟨piece, hpiece, hmark⟩
  · exact hseparator hmark
  · obtain ⟨part, hpart, rfl⟩ := List.mem_map.1 hpiece
    exact hparts part hpart hmark

theorem expandingUpper_oneLine :
    ∀ entry ∈ expandingUpper, '\n' ∉ entry.2.map Char.ofNat := by
  decide

theorem eq_of_mem_upperOf (h : '\n' ∈ upperOf c) : c = '\n' := by
  have hpositive : '\n'.toNat ≠ 0 := by decide
  have hvalue : '\n'.toNat = 0xa := rfl
  simp only [upperOf] at h
  split at h
  · rw [List.mem_singleton] at h
    split at h
    · next hsmall =>
      have hpoint := eq_of_ofNat h.symm hpositive
      simp only [Bool.and_eq_true, decide_eq_true_eq] at hsmall
      omega
    · exact h.symm
  · split at h
    · next points hpoints => exact absurd h (expandingUpper_oneLine _ (mem_expandingUpper hpoints))
    · split at h
      · next shift hshift =>
        obtain ⟨run, hrun, hfirst, hlast, rfl⟩ := exists_run_of_upperShift hshift
        have hpoint := eq_of_ofNat (List.mem_singleton.1 h).symm hpositive
        have hrange := upperRuns_heads run hrun 0xa (by simp)
        omega
      · exact (List.mem_singleton.1 h).symm

theorem OneLine.upperFirst (h : OneLine text) : OneLine (upperFirst text) := by
  cases htext : text.toList with
  | nil => simp [upperFirst_of_nil htext, OneLine]
  | cons c tail =>
    rw [OneLine, htext, List.mem_cons, not_or] at h
    rw [OneLine, upperFirst_of_cons htext, String.toList_ofList, List.mem_append, not_or]
    refine ⟨?_, h.2⟩
    intro hbreak
    exact h.1 (eq_of_mem_upperOf hbreak).symm

theorem getLast?_glue {separator last : List Char} (h : last ≠ []) (front : List (List Char)) :
    (glue separator (front ++ [last])).getLast? = last.getLast? := by
  induction front with
  | nil => rfl
  | cons piece rest ih =>
    rw [List.cons_append, glue_cons _ (by simp), List.getLast?_append, ih,
      List.getLast?_eq_some_getLast h, Option.some_or]

theorem glue_append_glue {separator : List Char} (front : List (List Char)) (h : others ≠ [])
    (tail : List Char) :
    glue separator (front ++ [glue separator others ++ tail])
      = glue separator (front ++ others) ++ tail := by
  induction front with
  | nil => rfl
  | cons piece rest ih =>
    have hrest : rest ++ others ≠ [] := by simp [h]
    rw [List.cons_append, List.cons_append, glue_cons _ (by simp), glue_cons _ hrest, ih]
    simp only [List.append_assoc]

theorem join_append_join (front : List String) (h : parts ≠ []) (tail : String) :
    join separator (front ++ [join separator parts ++ tail])
      = join separator (front ++ parts) ++ tail := by
  have hparts : parts.map String.toList ≠ [] := by simpa using h
  apply String.toList_injective
  simp only [join, List.map_append, List.map_cons, List.map_nil, String.toList_append,
    String.toList_ofList]
  exact glue_append_glue _ hparts _

theorem paragraphs_join (hne : parts ≠ []) (h : ∀ part ∈ parts, Unbroken part.toList) :
    paragraphs (join "\n\n" parts) = parts := by
  obtain ⟨first, others, rfl⟩ := List.exists_cons_of_ne_nil hne
  have hpieces : ∀ piece ∈ (first :: others).map String.toList, Unbroken piece := by
    intro piece hpiece
    obtain ⟨part, hpart, rfl⟩ := List.mem_map.1 hpiece
    exact h part hpart
  have hcuts : cuts (glue ['\n', '\n'] ((first :: others).map String.toList))
      = (first :: others).map String.toList := cuts_glue hpieces
  rw [paragraphs, join, String.toList_ofList, String.toList_ofList, hcuts, map_ofList_toList]

end Text

variable {registry : Registry} {options : Options} {collection : Collection}
  {declaration : Declaration} {batch : Batch} {generated : Generated}

theorem Declaration.toList_text (declaration : Declaration) :
    declaration.text.toList = declaration.header.toList
      ++ '\n' :: (Text.indent (Text.join " &\n" declaration.segments)).toList := by
  simp [Declaration.text, String.toList_append]

theorem Declaration.getLast?_text (declaration : Declaration) :
    declaration.text.toList.getLast? ≠ some '\n' := by
  have hbody := Text.filled_indent (Text.join " &\n" declaration.segments)
  rw [Declaration.toList_text, ← List.singleton_append, ← List.append_assoc,
    List.getLast?_append_of_ne_nil _ hbody.ne_nil]
  exact hbody.getLast?_ne

theorem Declaration.toList_text_ne_nil (declaration : Declaration) :
    declaration.text.toList ≠ [] := by
  simp [Declaration.toList_text]

theorem Declaration.filled_text (h : Text.OneLine declaration.header) :
    Text.Filled declaration.text.toList := by
  have hne : declaration.header.toList ≠ [] := by
    simp [Declaration.header, String.toList_append]
  rw [Declaration.toList_text]
  exact Text.filled_append h hne (Text.filled_indent _)

/-- Names and aliases of a collection that have no line breaks: those that its header has. -/
structure Collection.OneLineNames (collection : Collection) : Prop where
  name : Text.OneLine collection.name
  forward : ∀ link ∈ collection.links, Text.OneLine link.forwardAlias
  reverse : ∀ entry ∈ collection.reverseLinks, Text.OneLine entry.1

theorem oneLine_selection {name : String} {aliases : List String} (hname : Text.OneLine name)
    (h : ∀ other ∈ aliases, Text.OneLine other) : Text.OneLine (selection name aliases).text := by
  have hbound : ∀ member ∈ (selection name aliases).bound, Text.OneLine member := by
    intro member hmember
    simp only [selection, List.mem_append, List.mem_map, List.mem_singleton] at hmember
    rcases hmember with ⟨other, hother, rfl⟩ | rfl
    · have halias := h other hother
      simp only [quotedAlias, Text.oneLine_append]
      exact ⟨⟨by decide, halias⟩, by decide⟩
    · decide
  have hdefault : Text.OneLine noneSelected := by decide
  simp only [TypeParameter.text, Text.oneLine_append]
  exact ⟨⟨⟨⟨hname, by decide⟩, Text.oneLine_join (by decide) hbound⟩, by decide⟩, hdefault⟩

theorem Declaration.oneLine_parameters
    (hforward : ∀ name ∈ declaration.forward.map (·.forwardAlias), Text.OneLine name)
    (hreverse : ∀ name ∈ declaration.reverse.map (·.reverseAlias), Text.OneLine name) :
    Text.OneLine declaration.parameters := by
  have hdeclared : ∀ text ∈ declaration.declared.map (·.text), Text.OneLine text := by
    intro text htext
    obtain ⟨parameter, hparameter, rfl⟩ := List.mem_map.1 htext
    rcases mem_declared_iff.1 hparameter with ⟨-, rfl⟩ | ⟨-, rfl | ⟨-, rfl⟩⟩
    · decide
    · exact oneLine_selection (by decide) hforward
    · exact oneLine_selection (by decide) hreverse
  rw [parameters_eq_clause, parameterClause]
  split
  · decide
  · simp only [Text.oneLine_append]
    exact ⟨⟨by decide, Text.oneLine_join (by decide) hdeclared⟩, by decide⟩

theorem Declaration.oneLine_header {keyTypes : KeyTypes} (h : collection.OneLineNames)
    (hof : declaration.IsOf collection options keyTypes) : Text.OneLine declaration.header := by
  have hname : Text.OneLine declaration.collection := hof.named ▸ h.name
  have hparameters : Text.OneLine declaration.parameters := by
    apply Declaration.oneLine_parameters
    · intro name hname
      rw [hof.forwardAliases] at hname
      obtain ⟨link, hlink, rfl⟩ := List.mem_map.1 hname
      exact h.forward link hlink
    · intro name hname
      rw [hof.reverseAliases] at hname
      obtain ⟨entry, hentry, rfl⟩ := List.mem_map.1 hname
      exact h.reverse entry hentry
  simp only [Declaration.header, Text.oneLine_append]
  exact ⟨⟨⟨by decide, hname.upperFirst⟩, hparameters⟩, by decide⟩

def Generated.parts (generated : Generated) : List String :=
  (if generated.imports.isEmpty then [] else [Text.join "\n" generated.imports])
    ++ generated.declarations

theorem Batch.source_eq (h : batch.declarations ≠ []) (log : List LogEntry) :
    batch.source = Text.join "\n\n" (Generated.ofBatch batch log).parts ++ "\n" := by
  have htexts : batch.declarations.map (·.text) ≠ [] := by simpa using h
  simp only [Batch.source, Generated.parts, Generated.ofBatch, List.isEmpty_map]
  exact Text.join_append_join _ htexts _

theorem Batch.source_of_no_declarations (h : (Batch.generate registry options).result = .ok batch)
    (hnone : batch.declarations = []) : batch.source = "\n" := by
  obtain ⟨-, himports⟩ := Batch.generate_eq_ok_iff.1 h
  have hempty : batch.imports = [] := by
    rw [hnone] at himports
    simp only [importsFor] at himports
    split at himports
    · exact (Except.ok.inj himports).symm
    · exact (Except.ok.inj himports).symm
  rw [Batch.source, hnone, hempty]
  rfl

theorem Generated.getLast?_join_parts (h : batch.declarations ≠ []) (log : List LogEntry) :
    (Text.join "\n\n" (Generated.ofBatch batch log).parts).toList.getLast? ≠ some '\n' := by
  obtain ⟨front, last, hlast⟩ := (List.eq_nil_or_concat' batch.declarations).resolve_left h
  have hne := last.toList_text_ne_nil
  simp only [Text.join, Generated.parts, Generated.ofBatch, hlast, List.map_append, List.map_cons,
    List.map_nil, String.toList_ofList, ← List.append_assoc]
  rw [Text.getLast?_glue hne]
  exact last.getLast?_text

theorem Import.toList_text_ne_nil (item : Import) : item.text.toList ≠ [] := by
  simp [Import.text, String.toList_append]

theorem Batch.filled_imports (hne : batch.imports ≠ [])
    (h : ∀ item ∈ batch.imports.map (·.text), Text.OneLine item) :
    Text.Filled (Text.join "\n" (batch.imports.map (·.text))).toList := by
  rw [Text.join, String.toList_ofList]
  apply Text.filled_glue
  · simpa using hne
  · intro line hline
    obtain ⟨text, htext, rfl⟩ := List.mem_map.1 hline
    obtain ⟨item, -, rfl⟩ := List.mem_map.1 htext
    exact ⟨h _ htext, item.toList_text_ne_nil⟩

theorem Batch.unbroken_parts
    (hdeclarations : ∀ declaration ∈ batch.declarations, Text.OneLine declaration.header)
    (himports : ∀ item ∈ batch.imports.map (·.text), Text.OneLine item) (log : List LogEntry) :
    ∀ part ∈ (Generated.ofBatch batch log).parts, Text.Unbroken part.toList := by
  intro part hpart
  rcases List.mem_append.1 hpart with himport | hdeclaration
  · simp only [Generated.ofBatch, List.isEmpty_map] at himport
    split at himport
    · exact absurd himport List.not_mem_nil
    · next hsome =>
      rw [List.mem_singleton.1 himport]
      have hne : batch.imports ≠ [] := by simpa using hsome
      exact (Batch.filled_imports hne himports).unbroken
  · obtain ⟨declaration, hmem, rfl⟩ := List.mem_map.1 hdeclaration
    exact (Declaration.filled_text (hdeclarations declaration hmem)).unbroken

/-- A source ends with one line break. Where the names and aliases of the collections have no line
breaks and neither have the imports, its paragraphs are the imports and the declarations, whatever the
fields, the keys and the overridden types are. -/
theorem source_in_paragraphs (h : (generateTexts registry options).result = .ok generated) :
    ∃ body : String, generated.source = body ++ "\n" ∧ body.toList.getLast? ≠ some '\n'
      ∧ (options.collections ≠ [] →
        (∀ name ∈ options.collections, ∀ collection, registry.get name = .ok collection →
          collection.OneLineNames) →
        (∀ item ∈ generated.imports, Text.OneLine item) →
        Text.paragraphs body = generated.parts) := by
  obtain ⟨batch, hbatch, rfl⟩ := generateTexts_eq_ok_iff.1 h
  have hmade := Batch.declarations_of_generate hbatch
  by_cases hnone : batch.declarations = []
  · refine ⟨"", Batch.source_of_no_declarations hbatch hnone, by simp, ?_⟩
    intro hsome
    rw [hnone, List.forall₂_nil_right_iff] at hmade
    exact absurd hmade hsome
  · let log := (Batch.generate registry options).log
    refine ⟨_, Batch.source_eq hnone log, Generated.getLast?_join_parts hnone log, ?_⟩
    intro _ hnames himports
    have hheaders : ∀ declaration ∈ batch.declarations, Text.OneLine declaration.header := by
      intro declaration hdeclaration
      obtain ⟨name, hname, collection, hget, hof⟩ := exists_of_forall₂ hmade.flip hdeclaration
      exact Declaration.oneLine_header (hnames name hname collection hget) hof
    have hne : (Generated.ofBatch batch log).parts ≠ [] := by
      simp [Generated.parts, Generated.ofBatch, hnone]
    exact Text.paragraphs_join hne (Batch.unbroken_parts hheaders himports log)

/-- Options for books, with blank lines in the types of covers and of the keys of shelves. -/
def gapOptions : Options :=
  { collections := ["book"], overrides := [("slug", "Slug\n\n| null"), ("media", "\n\n")],
    resolver := some fun name => .ok ("./" ++ name) }

def gapBatch : Batch :=
  ⟨[⟨"book", true, ⟨"id", "number", true⟩, [⟨"cover", false, "\n\n"⟩],
      [⟨"shelf", "shelf", "Slug\n\n| null"⟩], []⟩], [⟨"shelf", "./shelf"⟩]⟩

theorem gapBatch_in_paragraphs :
    (Batch.generate (Registry.after shelfActions) gapOptions).result = .ok gapBatch
      ∧ ∃ generated body, (generateTexts (Registry.after shelfActions) gapOptions).result
          = .ok generated
        ∧ generated.source = body ++ "\n" ∧ Text.paragraphs body = generated.parts := by
  have hbatch : (Batch.generate (Registry.after shelfActions) gapOptions).result
      = .ok gapBatch := rfl
  have htexts := generateTexts_eq_ok_iff.2 ⟨_, hbatch, rfl⟩
  have hnames : ∀ name ∈ gapOptions.collections, ∀ collection,
      (Registry.after shelfActions).get name = .ok collection → collection.OneLineNames := by
    intro name hname collection hget
    rw [List.mem_singleton.1 hname] at hget
    cases hget
    exact ⟨by decide, by decide, by decide⟩
  have himports : ∀ item ∈ gapBatch.imports.map (·.text), Text.OneLine item := by decide
  obtain ⟨body, hsource, -, hparagraphs⟩ := source_in_paragraphs htexts
  have hparts := hparagraphs (by decide) hnames himports
  exact ⟨hbatch, _, body, htexts, hsource, hparts⟩

end StorageTypes
