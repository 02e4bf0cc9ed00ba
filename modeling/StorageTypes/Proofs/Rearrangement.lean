import Mathlib.Data.List.Perm.Basic
import StorageTypes.Proofs.Duality
import StorageTypes.Proofs.Header
import StorageTypes.Proofs.Registration

namespace StorageTypes

open Json (Value)

variable {registry other : Registry} {options : Options} {name : String}
  {collection : Collection} {entries reordered : List (String × Value)}

theorem AllAccepted.perm (h : AllAccepted entries) (hperm : entries.Perm reordered) :
    AllAccepted reordered :=
  fun entry hentry => h entry (hperm.mem_iff.2 hentry)

def accepted? (entry : String × Value) : Option (String × Collection) :=
  (Collection.ofDefinition entry.1 entry.2).toOption.map (entry.1, ·)

theorem accepted_eq_filterMap (h : AllAccepted entries) :
    accepted entries = entries.filterMap accepted? := by
  induction entries with
  | nil => rfl
  | cons entry rest ih =>
    obtain ⟨⟨collection, hread⟩, hrest⟩ := List.forall_mem_cons.1 h
    have hfirst : accepted? entry = some (entry.1, collection) := by
      rw [accepted?, hread]
      rfl
    simp only [accepted, hread, List.filterMap_cons_some hfirst, ih hrest]

theorem accepted_perm (h : AllAccepted entries) (hperm : entries.Perm reordered) :
    (accepted entries).Perm (accepted reordered) := by
  rw [accepted_eq_filterMap h, accepted_eq_filterMap (h.perm hperm)]
  exact hperm.filterMap accepted?

theorem names_accepted (h : AllAccepted entries) :
    Dictionary.names (accepted entries) = Dictionary.names entries := by
  induction entries with
  | nil => rfl
  | cons entry rest ih =>
    obtain ⟨⟨collection, hread⟩, hrest⟩ := List.forall_mem_cons.1 h
    simp only [accepted, hread, Dictionary.names_cons, ih hrest]

section

variable {collections others : Dictionary Collection}

theorem reverseOf_perm (h : collections.Perm others) (name : String) :
    (reverseOf (Dictionary.values collections) name).Perm
      (reverseOf (Dictionary.values others) name) :=
  (((h.map _).flatMap_right _).filter _).map _

theorem Linkable.perm (hlinkable : Linkable collections) (h : collections.Perm others) :
    Linkable others := by
  have hvalues : (Dictionary.values collections).Perm (Dictionary.values others) := h.map _
  refine ⟨fun collection hmem => ?_, fun backlink hmem => ?_, fun name hname => ?_⟩
  · exact hlinkable.forward collection (hvalues.mem_iff.2 hmem)
  · rw [← (Dictionary.names_perm h).mem_iff]
    exact hlinkable.targets backlink ((hvalues.flatMap_right _).mem_iff.2 hmem)
  · rw [← (Dictionary.names_perm h).mem_iff] at hname
    exact ((reverseOf_perm h name).map _).nodup_iff.1 (hlinkable.reverse name hname)

end

theorem ofDefinitions_obj_iff :
    (Registry.ofDefinitions (.obj entries)).result = .ok registry
      ↔ AllAccepted entries
        ∧ (Registry.empty.registerEach entries).1.finish = (registry, .ok ()) := by
  rw [ofDefinitions_eq_ok_iff, ← Registry.registerEach_eq_ok_iff]
  constructor
  · rintro ⟨registered, hregistered, hfinished⟩
    have hentries : Registry.empty.registerEach entries = (registered, .ok ()) := hregistered
    rw [hentries]
    exact ⟨rfl, hfinished⟩
  · rintro ⟨hregistered, hfinished⟩
    exact ⟨_, Prod.ext rfl hregistered, hfinished⟩

theorem stored_of_ofDefinitions (h : (Registry.ofDefinitions (.obj entries)).result = .ok registry) :
    SameButReverse registry.collections (Dictionary.ofList (accepted entries)) := by
  have hsame := (Registry.empty.registerEach entries).1.finish_same
  rw [(ofDefinitions_obj_iff.1 h).2, registerEach_stored] at hsame
  exact hsame

section

variable (hdistinct : (Dictionary.names entries).Nodup)

include hdistinct

theorem registered_of_accepted (h : AllAccepted entries) :
    (Registry.empty.registerEach entries).1.collections = accepted entries := by
  rw [← names_accepted h] at hdistinct
  exact (registerEach_stored Registry.empty entries).trans (Dictionary.ofList_of_nodup hdistinct)

theorem exists_ofDefinitions_iff :
    (∃ registry, (Registry.ofDefinitions (.obj entries)).result = .ok registry)
      ↔ AllAccepted entries ∧ Linkable (accepted entries) := by
  simp only [ofDefinitions_obj_iff, exists_and_left]
  refine and_congr_right fun haccepted => ?_
  rw [← registered_of_accepted hdistinct haccepted, ← Registry.finish_eq_ok_iff]
  constructor
  · rintro ⟨registry, hfinished⟩
    rw [hfinished]
  · exact fun hfinished => ⟨_, Prod.ext rfl hfinished⟩

theorem same_of_ofDefinitions
    (h : (Registry.ofDefinitions (.obj entries)).result = .ok registry) :
    SameButReverse registry.collections (accepted entries) := by
  have hsame := stored_of_ofDefinitions h
  rw [← names_accepted (ofDefinitions_obj_iff.1 h).1] at hdistinct
  rwa [Dictionary.ofList_of_nodup hdistinct] at hsame

theorem accepts_of_perm (hperm : entries.Perm reordered)
    (h : ∃ registry, (Registry.ofDefinitions (.obj entries)).result = .ok registry) :
    ∃ registry, (Registry.ofDefinitions (.obj reordered)).result = .ok registry := by
  have hdistinct' := (Dictionary.names_perm hperm).nodup_iff.1 hdistinct
  obtain ⟨haccepted, hlinkable⟩ := (exists_ofDefinitions_iff hdistinct).1 h
  exact (exists_ofDefinitions_iff hdistinct').2
    ⟨haccepted.perm hperm, hlinkable.perm (accepted_perm haccepted hperm)⟩

end

/-- Collections that differ in the order of what they show, if at all. -/
structure Collection.Rearranged (collection other : Collection) : Prop where
  same : other.withoutReverse = collection.withoutReverse
  reverse : collection.reverse.Perm other.reverse

/-- Registries that differ in the order of their collections and of what these show, if at all. -/
structure Registry.Rearranged (registry other : Registry) : Prop where
  names : registry.names.Perm other.names
  collections : ∀ name collection, Dictionary.find? name registry.collections = some collection →
    ∃ found, Dictionary.find? name other.collections = some found ∧ collection.Rearranged found

theorem Registry.scan_perm
    (h : (Dictionary.mapValues Collection.withoutReverse registry.collections).Perm
      (Dictionary.mapValues Collection.withoutReverse other.collections)) (name : String) :
    (registry.scan name).Perm (other.scan name) := by
  have hscan (registry : Registry) : registry.scan name = reverseOf (Dictionary.values
      (Dictionary.mapValues Collection.withoutReverse registry.collections)) name := by
    rw [reverseOf_congr (Registry.same_cleared registry.collections).relationships_eq,
      reverseOf_eq_scan]
  rw [hscan registry, hscan other]
  exact reverseOf_perm h name

theorem Registry.Loaded.rearranged (h : registry.Loaded) (hother : other.Loaded)
    (hperm : (Dictionary.mapValues Collection.withoutReverse registry.collections).Perm
      (Dictionary.mapValues Collection.withoutReverse other.collections)) :
    registry.Rearranged other := by
  have hnames := Dictionary.names_perm hperm
  simp only [Dictionary.names_mapValues] at hnames
  refine ⟨hnames, fun name collection hfind => ?_⟩
  have hdistinct : (Dictionary.names
      (Dictionary.mapValues Collection.withoutReverse registry.collections)).Nodup := by
    rw [Dictionary.names_mapValues]
    exact h.consistent.distinct
  have hsame := Dictionary.find?_perm name hdistinct hperm
  rw [Dictionary.find?_mapValues, Dictionary.find?_mapValues, hfind] at hsame
  obtain ⟨found, hfound, hwithout⟩ := Option.map_eq_some_iff.1 hsame
  refine ⟨found, hfound, hwithout, ?_⟩
  rw [h.consistent.shown h.initialized name collection hfind,
    hother.consistent.shown hother.initialized name found hfound]
  exact Registry.scan_perm hperm name

theorem rearranged_of_perm (hdistinct : (Dictionary.names entries).Nodup)
    (hperm : entries.Perm reordered)
    (h : (Registry.ofDefinitions (.obj entries)).result = .ok registry)
    (hother : (Registry.ofDefinitions (.obj reordered)).result = .ok other) :
    registry.Rearranged other := by
  have hdistinct' := (Dictionary.names_perm hperm).nodup_iff.1 hdistinct
  have haccepted := (ofDefinitions_obj_iff.1 h).1
  refine (loaded_of_ofDefinitions h).rearranged (loaded_of_ofDefinitions hother) ?_
  rw [same_of_ofDefinitions hdistinct h, same_of_ofDefinitions hdistinct' hother]
  exact (accepted_perm haccepted hperm).map _

structure TypeParameter.Rearranged (parameter other : TypeParameter) : Prop where
  name : other.name = parameter.name
  bound : parameter.bound.Perm other.bound
  default : other.default = parameter.default
  same : parameter.name ≠ reverseParameter → other = parameter

/-- Declarations that agree but for the order of what they show. -/
structure Declaration.Rearranged (declaration other : Declaration) : Prop where
  collection : other.collection = declaration.collection
  clauses : declaration.parameters = parameterClause declaration.declared
    ∧ other.parameters = parameterClause other.declared
  parameters : List.Forall₂ TypeParameter.Rearranged declaration.declared other.declared
  key : other.key.text = declaration.key.text
  fields : Text.block (other.fields.map (·.text)) = Text.block (declaration.fields.map (·.text))
  forward : Text.block (other.forward.map (·.text)) = Text.block (declaration.forward.map (·.text))
  segments : (declaration.reverse.map (·.text)).Perm (other.reverse.map (·.text))

theorem TypeParameter.Rearranged.refl (parameter : TypeParameter) :
    parameter.Rearranged parameter :=
  ⟨rfl, .refl _, rfl, fun _ => rfl⟩

section

variable {declaration : Declaration} {reverse : List ReverseMember}
  (h : declaration.reverse.Perm reverse)

include h

theorem declared_rearranged : List.Forall₂ TypeParameter.Rearranged declaration.declared
    { declaration with reverse := reverse }.declared := by
  have hunion : TypeParameter.Rearranged
      (selection reverseParameter (declaration.reverse.map (·.reverseAlias)))
      (selection reverseParameter (reverse.map (·.reverseAlias))) :=
    ⟨rfl, ((h.map _).map _).append_right _, rfl, fun hother => absurd rfl hother⟩
  simp only [Declaration.declared, h.isEmpty_eq]
  refine List.rel_append ?_ ?_
  · split
    · exact .cons (.refl _) .nil
    · exact .nil
  · split
    · refine .cons (.refl _) ?_
      split
      · exact .nil
      · exact .cons hunion .nil
    · exact .nil

theorem Declaration.rearranged_of_perm :
    declaration.Rearranged { declaration with reverse := reverse } where
  collection := rfl
  clauses := ⟨parameters_eq_clause _, parameters_eq_clause _⟩
  parameters := declared_rearranged h
  key := rfl
  fields := rfl
  forward := rfl
  segments := h.map _

end

theorem FieldMember.ofFields_reverse (collection : Collection) (reverse : Dictionary Relationship)
    (fields : Dictionary Field) :
    FieldMember.ofFields { collection with reverse := reverse } options fields
      = FieldMember.ofFields collection options fields := by
  induction fields with
  | nil => rfl
  | cons entry rest ih =>
    have hfield : FieldMember.ofField { collection with reverse := reverse } options entry.1 entry.2
        = FieldMember.ofField collection options entry.1 entry.2 := rfl
    simp only [FieldMember.ofFields, hfield, ih]

theorem membersOf_congr {α β : Type} {member same : α → Logged SchemaError (Option β)}
    {items : List α} (h : ∀ item ∈ items, same item = member item) :
    membersOf same items = membersOf member items := by
  induction items with
  | nil => rfl
  | cons item rest ih =>
    obtain ⟨hfirst, hrest⟩ := List.forall_mem_cons.1 h
    simp only [membersOf, hfirst, ih hrest]

section

variable {keyTypes otherTypes : KeyTypes} {reverse : Dictionary Relationship}
  (hreverse : collection.reverse.Perm reverse)
  (htypes : ∀ link ∈ collection.links, otherTypes link.target = keyTypes link.target)

include hreverse htypes

theorem ofCollection_reverse :
    (Declaration.ofCollection { collection with reverse := reverse } options otherTypes).result
      = (Declaration.ofCollection collection options keyTypes).result.map fun declaration =>
          { declaration with
            reverse := ({ collection with reverse := reverse } : Collection).reverseLinks.map
              ReverseMember.ofLink } := by
  have hkey : KeyMember.ofCollection { collection with reverse := reverse } options
      = KeyMember.ofCollection collection options := rfl
  have hforward : membersOf (ForwardMember.ofRelationship collection.name otherTypes)
        collection.relationships
      = membersOf (ForwardMember.ofRelationship collection.name keyTypes)
        collection.relationships := by
    refine membersOf_congr fun relationship hrelationship => ?_
    cases relationship with
    | childOf link =>
      rw [ForwardMember.ofRelationship, htypes link (Collection.mem_links_iff.2 hrelationship)]
      rfl
    | connects junction => rfl
  have hflag : Collection.hasRelationships { collection with reverse := reverse }
      = collection.hasRelationships := by
    simp only [Collection.hasRelationships, hreverse.isEmpty_eq]
  have hshown := reverseMembers_result collection.name { collection with reverse := reverse }
  simp only [Declaration.ofCollection, Logged.bind, Logged.map, Logged.ofExcept, hkey, hforward,
    hflag, FieldMember.ofFields_reverse, hshown, reverseMembers_result]
  cases KeyMember.ofCollection collection options with
  | error cause => rfl
  | ok key =>
    cases FieldMember.ofFields collection options collection.fields with
    | error cause => rfl
    | ok fields =>
      cases (membersOf (ForwardMember.ofRelationship collection.name keyTypes)
        collection.relationships).result <;> rfl

end

theorem Collection.Rearranged.eq_with {other : Collection} (h : collection.Rearranged other) :
    other = { collection with reverse := other.reverse } := by
  have hother : other = { other.withoutReverse with reverse := other.reverse } := rfl
  rw [hother, h.same]
  rfl

/-- Two results that are related, or two failures of one class. -/
inductive SameOutcome {α β : Type} (related : α → β → Prop) :
    Except SchemaError α → Except SchemaError β → Prop where
  | ok {a : α} {b : β} (h : related a b) : SameOutcome related (.ok a) (.ok b)
  | error {cause fault : SchemaError} (h : fault.className = cause.className) :
    SameOutcome related (.error cause) (.error fault)

theorem SameOutcome.eachOf {α β γ : Type} {related : β → γ → Prop} {f : α → Except SchemaError β}
    {g : α → Except SchemaError γ} {items : List α}
    (h : ∀ item ∈ items, SameOutcome related (f item) (g item)) :
    SameOutcome (List.Forall₂ related) (eachOf f items) (eachOf g items) := by
  induction items with
  | nil => exact .ok .nil
  | cons item rest ih =>
    obtain ⟨hfirst, hrest⟩ := List.forall_mem_cons.1 h
    have hothers := ih hrest
    simp only [StorageTypes.eachOf]
    generalize f item = first, g item = second at hfirst ⊢
    generalize StorageTypes.eachOf f rest = firsts, StorageTypes.eachOf g rest = seconds
      at hothers ⊢
    cases hfirst with
    | error hclass => exact .error hclass
    | ok hrelated =>
      cases hothers with
      | error hclass => exact .error hclass
      | ok hothers => exact .ok (.cons hrelated hothers)

theorem ofCollection_rearranged {other : Collection} {keyTypes otherTypes : KeyTypes}
    (h : collection.Rearranged other)
    (htypes : ∀ link ∈ collection.links, otherTypes link.target = keyTypes link.target) :
    SameOutcome Declaration.Rearranged
      (Declaration.ofCollection collection options keyTypes).result
      (Declaration.ofCollection other options otherTypes).result := by
  rw [h.eq_with, ofCollection_reverse h.reverse htypes]
  cases hmade : (Declaration.ofCollection collection options keyTypes).result with
  | error cause => exact .error rfl
  | ok declaration =>
    refine .ok (Declaration.rearranged_of_perm ?_)
    rw [(Declaration.ofCollection_eq_ok_iff.1 hmade).reverse]
    exact (h.reverse.filterMap _).map _

theorem Registry.Loaded.exists_get (h : registry.Loaded) (hname : name ∈ registry.names) :
    ∃ collection, registry.get name = .ok collection := by
  obtain ⟨collection, hfind⟩ := Option.isSome_iff_exists.1 (Dictionary.find?_isSome_iff.2 hname)
  exact ⟨collection, Registry.get_eq_ok_iff.2 ⟨h.initialized, hfind⟩⟩

namespace Batch

theorem declare_of_get (hget : registry.get name = .ok collection) :
    (declare registry options name).result
      = (Declaration.ofCollection collection options (keyTypesIn registry options)).result := by
  simp only [declare, hget, Logged.bind, Logged.ofExcept]
  cases (Declaration.ofCollection collection options (keyTypesIn registry options)).result <;> rfl

theorem declare_of_missing (hflag : registry.initialized = true) (hname : name ∉ registry.names) :
    (declare registry options name).result
      = .error (.unknownCollection name registry.names) := by
  have hfind := Dictionary.find?_eq_none_iff.2 hname
  simp only [declare, Registry.get, hflag, if_true, hfind, Logged.bind, Logged.ofExcept]

section

variable (h : registry.Rearranged other) (hloaded : registry.Loaded) (hother : other.Loaded)

include h hother

theorem get_rearranged (hget : registry.get name = .ok collection) :
    ∃ found, other.get name = .ok found ∧ collection.Rearranged found := by
  obtain ⟨found, hfound, hsame⟩ := h.collections name collection (Registry.get_eq_ok_iff.1 hget).2
  exact ⟨found, Registry.get_eq_ok_iff.2 ⟨hother.initialized, hfound⟩, hsame⟩

theorem keyTypesIn_rearranged (hget : registry.get name = .ok collection) :
    keyTypesIn other options name = keyTypesIn registry options name := by
  obtain ⟨found, hfound, hsame⟩ := get_rearranged h hother hget
  simp only [keyTypesIn, hget, hfound]
  rw [hsame.eq_with]
  rfl

include hloaded

theorem declare_rearranged (options : Options) (name : String) :
    SameOutcome Declaration.Rearranged (declare registry options name).result
      (declare other options name).result := by
  by_cases hname : name ∈ registry.names
  · obtain ⟨collection, hget⟩ := hloaded.exists_get hname
    obtain ⟨found, hfound, hsame⟩ := get_rearranged h hother hget
    rw [declare_of_get hget, declare_of_get hfound]
    refine ofCollection_rearranged hsame fun link hlink => ?_
    have hfind := (Registry.get_eq_ok_iff.1 hget).2
    obtain ⟨target, htarget⟩ := hloaded.exists_get (hloaded.target_mem_names hfind hlink)
    exact keyTypesIn_rearranged h hother htarget
  · rw [declare_of_missing hloaded.initialized hname,
      declare_of_missing hother.initialized (h.names.mem_iff.not.1 hname)]
    exact .error rfl

theorem declareAll_rearranged (options : Options) (names : List String) :
    SameOutcome (List.Forall₂ Declaration.Rearranged) (declareAll registry options names).result
      (declareAll other options names).result := by
  rw [declareAll_result, declareAll_result]
  exact .eachOf fun name _ => declare_rearranged h hloaded hother options name

omit hloaded in
theorem warnings_rearranged {declaration remade : Declaration}
    (hmade : (declare registry options name).result = .ok declaration)
    (hremade : (declare other options name).result = .ok remade) :
    (warningsOf (declare registry options name).log).Perm
      (warningsOf (declare other options name).log) := by
  obtain ⟨collection, hget, hof⟩ := declare_eq_ok_iff.1 hmade
  obtain ⟨found, hfound, hsame⟩ := get_rearranged h hother hget
  obtain ⟨same, hsameget, hsameof⟩ := declare_eq_ok_iff.1 hremade
  obtain rfl : found = same := Except.ok.inj (hfound.symm.trans hsameget)
  have hresult := Declaration.ofCollection_eq_ok_iff.2 hof
  have hreresult := Declaration.ofCollection_eq_ok_iff.2 hsameof
  rw [warningsOf_declare hget hresult, warningsOf_declare hfound hreresult,
    warningsOf_ofCollection hresult, warningsOf_ofCollection hreresult]
  rw [hsame.eq_with]
  exact (hsame.reverse.flatMap_right _).append_left _

end

end Batch

theorem SameOutcome.exists_ok_iff {α β : Type} {related : α → β → Prop} {x : Except SchemaError α}
    {y : Except SchemaError β} (h : SameOutcome related x y) : (∃ a, x = .ok a) ↔ ∃ b, y = .ok b := by
  cases h <;> simp

theorem resolvesAll_of_none (h : options.resolver = none) : options.ResolvesAll := by
  intro resolver hresolver
  rw [h] at hresolver
  cases hresolver

/-- Registries of which runs without a resolver fail alike, or hand out the same texts but for the
order of what is shown and of the warnings. -/
structure Registry.GeneratesAlike (registry other : Registry) (options : Options) : Prop where
  succeeds : (∃ generated, (generateTexts registry options).result = .ok generated)
    ↔ ∃ generated, (generateTexts other options).result = .ok generated
  fails : ∀ error, (generateTexts registry options).result = .error error →
    ∃ cause fault, error = .schema cause
      ∧ (generateTexts other options).result = .error (.schema fault)
      ∧ fault.className = cause.className
  texts : ∀ generated rearranged, (generateTexts registry options).result = .ok generated →
    (generateTexts other options).result = .ok rearranged →
      (∃ declarations others : List Declaration,
        generated.declarations = declarations.map (·.text)
        ∧ rearranged.declarations = others.map (·.text)
        ∧ List.Forall₂ Declaration.Rearranged declarations others)
      ∧ generated.imports = [] ∧ rearranged.imports = []
      ∧ generated.warnings.Perm rearranged.warnings

theorem Registry.Rearranged.generatesAlike (h : registry.Rearranged other)
    (hloaded : registry.Loaded) (hother : other.Loaded) (hresolver : options.resolver = none) :
    registry.GeneratesAlike other options := by
  have hresolves := resolvesAll_of_none hresolver
  have hall := Batch.declareAll_rearranged h hloaded hother options options.collections
  constructor
  case succeeds =>
    simp only [exists_texts_iff, Batch.exists_batch_iff hresolves]
    refine forall₂_congr fun name _ => ?_
    exact (Batch.declare_rearranged h hloaded hother options name).exists_ok_iff
  case fails =>
    intro error herror
    simp only [generateTexts_eq_error_iff, Batch.generate_eq_error_iff hresolves] at herror ⊢
    obtain ⟨cause, hcause, rfl⟩ := herror
    rw [hcause] at hall
    generalize hfault : (Batch.declareAll other options options.collections).result = outcome
      at hall
    cases hall with
    | error hclass => exact ⟨cause, _, rfl, ⟨_, rfl, rfl⟩, hclass⟩
  case texts =>
    intro generated rearranged hgenerated hrearranged
    obtain ⟨batch, hbatch, rfl⟩ := generateTexts_eq_ok_iff.1 hgenerated
    obtain ⟨rebatch, hrebatch, rfl⟩ := generateTexts_eq_ok_iff.1 hrearranged
    obtain ⟨hmade, himports⟩ := Batch.generate_eq_ok_iff.1 hbatch
    obtain ⟨hremade, hreimports⟩ := Batch.generate_eq_ok_iff.1 hrebatch
    simp only [importsFor, hresolver, Except.ok.injEq] at himports hreimports
    rw [hmade, hremade] at hall
    cases hall with
    | ok hdeclarations =>
    refine ⟨⟨_, _, rfl, rfl, hdeclarations⟩, ?_, ?_, ?_⟩
    · rw [Generated.ofBatch, ← himports, List.map_nil]
    · rw [Generated.ofBatch, ← hreimports, List.map_nil]
    · simp only [Generated.ofBatch, Batch.warningsOf_generate hbatch,
        Batch.warningsOf_generate hrebatch]
      refine List.Perm.flatMap_left _ fun name hname => ?_
      obtain ⟨_, -, hdeclare⟩ := exists_of_forall₂ (Batch.declareAll_eq_ok_iff.1 hmade) hname
      obtain ⟨_, -, hredeclare⟩ := exists_of_forall₂ (Batch.declareAll_eq_ok_iff.1 hremade) hname
      exact Batch.warnings_rearranged h hother hdeclare hredeclare

/-- Definitions in two orders that are both accepted, to registries that show and generate the same but
for its order, or both refused. -/
structure OrderIndependent (entries reordered : List (String × Value)) : Prop where
  accepted : (∃ registry, (Registry.ofDefinitions (.obj entries)).result = .ok registry)
    ↔ ∃ other, (Registry.ofDefinitions (.obj reordered)).result = .ok other
  stored : ∀ registry other, (Registry.ofDefinitions (.obj entries)).result = .ok registry →
    (Registry.ofDefinitions (.obj reordered)).result = .ok other → registry.Rearranged other
  generated : ∀ registry other, (Registry.ofDefinitions (.obj entries)).result = .ok registry →
    (Registry.ofDefinitions (.obj reordered)).result = .ok other →
      ∀ options : Options, options.resolver = none → registry.GeneratesAlike other options

/-- The order of definitions decides nothing but the order of what is shown and of the warnings. -/
theorem order_independent (hdistinct : (Dictionary.names entries).Nodup)
    (hperm : entries.Perm reordered) : OrderIndependent entries reordered := by
  have hdistinct' := (Dictionary.names_perm hperm).nodup_iff.1 hdistinct
  constructor
  case accepted =>
    exact ⟨accepts_of_perm hdistinct hperm, accepts_of_perm hdistinct' hperm.symm⟩
  case stored => exact fun registry other => rearranged_of_perm hdistinct hperm
  case generated =>
    intro registry other h hother options hresolver
    exact (rearranged_of_perm hdistinct hperm h hother).generatesAlike (loaded_of_ofDefinitions h)
      (loaded_of_ofDefinitions hother) hresolver

def memberEntries : List (String × Value) :=
  [("user", .obj []),
    ("group", .obj [("relationships", .arr [.obj [("childOf", .str "user"),
      ("alias", .str "owner"), ("reverseAlias", .str "owned")]])]),
    ("member", .obj [("relationships", .arr [.obj [("childOf", .str "user"),
      ("alias", .str "account")], .obj [("connects", .arr [.str "user", .str "group"])]])])]

def memberRegistry : Registry :=
  (Registry.empty.registerAll (.obj memberEntries)).1.finish.1

theorem members_order_independent :
    (Dictionary.names memberEntries).Nodup ∧ memberEntries.Perm memberEntries.reverse
      ∧ (Registry.ofDefinitions (.obj memberEntries)).result = .ok memberRegistry
      ∧ OrderIndependent memberEntries memberEntries.reverse := by
  have hdistinct : (Dictionary.names memberEntries).Nodup := by decide
  have hperm : memberEntries.Perm memberEntries.reverse := (List.reverse_perm _).symm
  exact ⟨hdistinct, hperm, rfl, order_independent hdistinct hperm⟩

end StorageTypes
