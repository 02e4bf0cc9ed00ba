import Mathlib.Data.List.Nodup
import StorageTypes.Proofs.Header
import StorageTypes.Proofs.Imports

namespace StorageTypes

open Json (Value)

namespace Text

variable {a b name : String} {c d capital : Char} {more rest tail : List Char}

/-- Texts that differ in nothing but the spelling of their beginning: the first character of one has the
upper case that the first character of the other has together with what comes after it. -/
inductive SpelledAlike : List Char → List Char → Prop where
  | longer {c d : Char} {taken rest : List Char} (h : upperOf c = upperOf d ++ taken) :
    SpelledAlike (c :: rest) (d :: (taken ++ rest))
  | shorter {c d : Char} {taken rest : List Char} (h : upperOf d = upperOf c ++ taken) :
    SpelledAlike (c :: (taken ++ rest)) (d :: rest)

theorem eq_of_ofNat {n : Nat} (h : Char.ofNat n = c) (hc : c.toNat ≠ 0) : n = c.toNat := by
  by_cases hvalid : n.isValidChar
  · have hchar : Char.ofNat n = Char.ofNatAux n hvalid := dif_pos hvalid
    rw [← h, hchar]
    rfl
  · have hzero : Char.ofNat n = Char.ofNat 0 := dif_neg hvalid
    rw [← h, hzero] at hc
    exact absurd rfl hc

theorem expandingUpper_heads : ∀ entry ∈ expandingUpper,
    entry.2 ≠ [] ∧ (entry.2.map Char.ofNat).head? ≠ some 'R'
      ∧ ((entry.2.map Char.ofNat).head? = some 'W' →
        entry.2.map Char.ofNat = ['W', '\u030a']) := by
  decide

theorem upperRuns_heads : ∀ run ∈ upperRuns, ∀ point ∈ [(0xa : Int), 0x52, 0x57],
    point < run.1 + run.2.2.2 ∨ run.2.1 + run.2.2.2 < point := by
  decide +kernel

theorem exists_run_of_upperShift {n : Nat} {shift : Int} (h : upperShift n = some shift) :
    ∃ run ∈ upperRuns, run.1 ≤ n ∧ n ≤ run.2.1 ∧ run.2.2.2 = shift := by
  obtain ⟨run, hrun, hshift⟩ := Option.map_eq_some_iff.1 h
  have hwithin := List.find?_some hrun
  simp only [Bool.and_eq_true, decide_eq_true_eq] at hwithin
  exact ⟨run, List.mem_of_find?_eq_some hrun, hwithin.1.1, hwithin.1.2, hshift⟩

theorem mem_expandingUpper {points : List Nat} (h : expandingUpper.lookup c.toNat = some points) :
    (c.toNat, points) ∈ expandingUpper := by
  obtain ⟨before, after, htable, -⟩ := List.lookup_eq_some_iff.1 h
  simp [htable]

theorem upperOf_ne_nil (c : Char) : upperOf c ≠ [] := by
  simp only [upperOf]
  split
  · exact List.cons_ne_nil _ _
  · split
    · next points hpoints => simpa using (expandingUpper_heads _ (mem_expandingUpper hpoints)).1
    · split <;> exact List.cons_ne_nil _ _

theorem upperOf_eq_cons (hcapital : capital = 'R' ∨ capital = 'W') (h : upperOf c = capital :: more) :
    more = [] ∧ (c = capital ∨ c = Char.ofNat (capital.toNat + 32)) ∨ more = ['\u030a'] := by
  have hpositive : capital.toNat ≠ 0 := by rcases hcapital with rfl | rfl <;> decide
  simp only [upperOf] at h
  split at h
  · obtain ⟨hletter, rfl⟩ := List.cons.inj h
    refine .inl ⟨rfl, ?_⟩
    split at hletter
    · next hsmall =>
      have hpoint := eq_of_ofNat hletter hpositive
      simp only [Bool.and_eq_true, decide_eq_true_eq] at hsmall
      have hsum : c.toNat = capital.toNat + 32 := by omega
      exact .inr (by rw [← hsum, Char.ofNat_toNat])
    · exact .inl hletter
  · split at h
    · next points hpoints =>
      obtain ⟨-, hr, hw⟩ := expandingUpper_heads _ (mem_expandingUpper hpoints)
      rw [h] at hr hw
      rcases hcapital with rfl | rfl
      · exact absurd rfl hr
      · exact .inr (List.cons.inj (hw rfl)).2
    · split at h
      · next shift hshift =>
        obtain ⟨hletter, rfl⟩ := List.cons.inj h
        obtain ⟨run, hrun, hfirst, hlast, rfl⟩ := exists_run_of_upperShift hshift
        have hpoint := eq_of_ofNat hletter hpositive
        have hvalue : capital.toNat = 0x52 ∨ capital.toNat = 0x57 := by
          rcases hcapital with rfl | rfl <;> decide
        have hr := upperRuns_heads run hrun 0x52 (by simp)
        have hw := upperRuns_heads run hrun 0x57 (by simp)
        omega
      · obtain ⟨hletter, rfl⟩ := List.cons.inj h
        exact .inl ⟨rfl, .inl hletter⟩

theorem upperFirst_of_cons (h : name.toList = c :: tail) :
    upperFirst name = String.ofList (upperOf c ++ tail) := by
  simp only [upperFirst, h]

theorem upperFirst_of_nil (h : name.toList = []) : upperFirst name = "" := by
  simp only [upperFirst, h]

theorem upperFirst_ne_empty (h : name.toList = c :: tail) : upperFirst name ≠ "" := by
  rw [upperFirst_of_cons h]
  intro hempty
  have happend : upperOf c ++ tail = [] := String.ofList_injective hempty
  exact upperOf_ne_nil c (List.append_eq_nil_iff.1 happend).1

theorem spelledAlike_iff :
    SpelledAlike (c :: rest) (d :: tail) ↔ upperOf c ++ rest = upperOf d ++ tail := by
  constructor
  · rintro (h | h) <;> simp [h]
  · intro h
    rcases List.append_eq_append_iff.1 h with ⟨taken, hd, rfl⟩ | ⟨taken, hc, rfl⟩
    · exact .shorter hd
    · exact .longer hc

theorem upperFirst_eq_iff :
    upperFirst a = upperFirst b ↔ a = b ∨ SpelledAlike a.toList b.toList := by
  cases ha : a.toList with
  | nil =>
    cases hb : b.toList with
    | nil =>
      have hsame : a = b := String.toList_injective (ha.trans hb.symm)
      simp [hsame]
    | cons d tail =>
      have hother : a ≠ b := by
        rintro rfl
        simp [ha] at hb
      rw [upperFirst_of_nil ha]
      refine iff_of_false (upperFirst_ne_empty hb).symm ?_
      rintro (hsame | h)
      · exact hother hsame
      · cases h
  | cons c rest =>
    cases hb : b.toList with
    | nil =>
      rw [upperFirst_of_nil hb]
      refine iff_of_false (upperFirst_ne_empty ha) ?_
      rintro (rfl | h)
      · simp [ha] at hb
      · cases h
    | cons d tail =>
      rw [upperFirst_of_cons ha, upperFirst_of_cons hb, String.ofList_inj, spelledAlike_iff]
      refine ⟨.inr, ?_⟩
      rintro (rfl | h)
      · obtain ⟨rfl, rfl⟩ := List.cons.inj (ha.symm.trans hb)
        rfl
      · exact h

theorem upperFirst_eq_of_capital (rest : List Char) (hcapital : capital = 'R' ∨ capital = 'W')
    (hrest : rest.head? ≠ some '\u030a') :
    upperFirst name = String.ofList (capital :: rest)
      ↔ name = String.ofList (capital :: rest)
        ∨ name = String.ofList (Char.ofNat (capital.toNat + 32) :: rest) := by
  constructor
  · intro h
    cases hname : name.toList with
    | nil =>
      rw [upperFirst_of_nil hname] at h
      cases String.ofList_injective (h : String.ofList [] = _)
    | cons c tail =>
      rw [upperFirst_of_cons hname, String.ofList_inj] at h
      have hlist : name = String.ofList (c :: tail) := by rw [← hname, String.ofList_toList]
      cases hupper : upperOf c with
      | nil => exact absurd hupper (upperOf_ne_nil c)
      | cons first more =>
        rw [hupper, List.cons_append] at h
        obtain ⟨rfl, rfl⟩ := List.cons.inj h
        rcases upperOf_eq_cons hcapital hupper with ⟨rfl, rfl | rfl⟩ | rfl
        · exact .inl hlist
        · exact .inr hlist
        · exact absurd rfl hrest
  · have hself : upperOf capital = [capital] := by rcases hcapital with rfl | rfl <;> decide
    have hsmall : upperOf (Char.ofNat (capital.toNat + 32)) = [capital] := by
      rcases hcapital with rfl | rfl <;> decide
    rintro (rfl | rfl)
    · rw [upperFirst_of_cons String.toList_ofList, hself, List.singleton_append]
    · rw [upperFirst_of_cons String.toList_ofList, hsmall, List.singleton_append]

end Text

def parameterNames : List String := [keyParameter, forwardParameter, reverseParameter]

def takenNames : List String :=
  ["WithPk", "withPk", "Relationships", "relationships", "ReverseRelationships",
    "reverseRelationships"]

theorem upperFirst_mem_parameterNames {name : String} :
    Text.upperFirst name ∈ parameterNames ↔ name ∈ takenNames := by
  have hkey : Text.upperFirst name = keyParameter ↔ name = "WithPk" ∨ name = "withPk" :=
    Text.upperFirst_eq_of_capital "ithPk".toList (.inr rfl) (by decide)
  have hforward : Text.upperFirst name = forwardParameter
      ↔ name = "Relationships" ∨ name = "relationships" :=
    Text.upperFirst_eq_of_capital "elationships".toList (.inl rfl) (by decide)
  have hreverse : Text.upperFirst name = reverseParameter
      ↔ name = "ReverseRelationships" ∨ name = "reverseRelationships" :=
    Text.upperFirst_eq_of_capital "everseRelationships".toList (.inl rfl) (by decide)
  simp only [parameterNames, takenNames, List.mem_cons, List.not_mem_nil, or_false, hkey, hforward,
    hreverse, or_assoc]

theorem declared_mem_parameterNames {declaration : Declaration} {parameter : TypeParameter}
    (h : parameter ∈ declaration.declared) : parameter.name ∈ parameterNames := by
  rcases mem_declared_iff.1 h with ⟨-, rfl⟩ | ⟨-, rfl | ⟨-, rfl⟩⟩ <;>
    simp [parameterNames, keyTypeParameter, selection]

def Batch.scope (batch : Batch) : List String :=
  batch.declarations.map (·.collection) ++ batch.imports.map (·.collection)

def Distinguishable (names : List String) : Prop :=
  ∀ name ∈ names, ∀ other ∈ names, Text.SpelledAlike name.toList other.toList → name = other

/-- Whether a type name in the body of a declaration stands for the type of a collection: no type
parameter of the declaration has it, and in scope that collection has it alone. -/
def Declaration.Denotes (declaration : Declaration) (batch : Batch) (typeName name : String) : Prop :=
  typeName ∉ declaration.declared.map (·.name)
    ∧ batch.scope.filter (Text.upperFirst · = typeName) = [name]

variable {registry : Registry} {options : Options} {batch : Batch} {name : String}
  {names : List String} {path : String → String} {declaration : Declaration}

theorem nodup_upperFirst_iff (h : names.Nodup) :
    (names.map Text.upperFirst).Nodup ↔ Distinguishable names := by
  rw [List.nodup_map_iff_inj_on h]
  refine forall₂_congr fun name hname => forall₂_congr fun other hother => ?_
  rw [Text.upperFirst_eq_iff]
  constructor
  · exact fun hinjective halike => hinjective (.inr halike)
  · rintro hsame (heq | halike)
    · exact heq
    · exact hsame halike

theorem filter_eq_singleton_iff {α : Type} {items : List α} {item : α} {holds : α → Bool}
    (h : items.Nodup) (hitem : item ∈ items) (hholds : holds item = true) :
    items.filter holds = [item] ↔ ∀ other ∈ items, holds other = true → item = other := by
  constructor
  · intro hfilter other hother hsame
    have hmem := List.mem_filter.2 ⟨hother, hsame⟩
    rw [hfilter] at hmem
    exact (List.mem_singleton.1 hmem).symm
  · intro halone
    refine List.perm_singleton.1 ?_
    refine (List.perm_ext_iff_of_nodup (h.filter _) (List.nodup_singleton _)).2 fun other => ?_
    rw [List.mem_filter, List.mem_singleton]
    constructor
    · rintro ⟨hother, hsame⟩
      exact (halone other hother hsame).symm
    · rintro rfl
      exact ⟨hitem, hholds⟩

theorem denotes_iff (h : batch.scope.Nodup) (hname : name ∈ batch.scope) :
    declaration.Denotes batch (Text.upperFirst name) name
      ↔ Text.upperFirst name ∉ declaration.declared.map (·.name)
        ∧ ∀ other ∈ batch.scope, Text.SpelledAlike name.toList other.toList → name = other := by
  rw [Declaration.Denotes, filter_eq_singleton_iff h hname (decide_eq_true rfl)]
  refine and_congr_right fun _ => forall₂_congr fun other hother => ?_
  rw [decide_eq_true_eq, eq_comm, Text.upperFirst_eq_iff]
  constructor
  · exact fun hall halike => hall (.inr halike)
  · rintro hall (heq | halike)
    · exact heq
    · exact hall halike

section

variable (hloaded : registry.Loaded) (hdistinct : options.collections.Nodup)
  (hresolver : options.resolver = some fun name => .ok (path name))
  (hbatch : (Batch.generate registry options).result = .ok batch)

include hloaded hresolver hbatch

theorem Batch.scope_eq :
    batch.scope = options.collections ++ registry.importedBy options.collections := by
  rw [Batch.scope, Batch.map_collections hloaded hbatch,
    Batch.imports_of_generate hloaded hresolver hbatch, List.map_map]
  exact congrArg _ (List.map_id _)

include hdistinct in
theorem Batch.nodup_scope : batch.scope.Nodup := by
  rw [Batch.scope_eq hloaded hresolver hbatch]
  refine List.nodup_append.2 ⟨hdistinct, nodup_importedBy _ _, ?_⟩
  rintro name hname _ himported rfl
  exact (mem_importedBy.1 himported).2 hname

theorem Batch.mem_scope_of_reference (hdeclaration : declaration ∈ batch.declarations)
    (hname : name ∈ declaration.references) : name ∈ batch.scope := by
  have hreferred := Batch.exists_referencesOf hloaded hbatch hdeclaration hname
  rw [Batch.scope_eq hloaded hresolver hbatch, List.mem_append]
  by_cases hin : name ∈ options.collections
  · exact .inl hin
  · exact .inr (mem_importedBy.2 ⟨hreferred, hin⟩)

end

/-- What the type names in the texts of a batch stand for. -/
structure Batch.NamesTypes (batch : Batch) (registry : Registry) (options : Options) : Prop where
  written : ∃ generated, (generateTexts registry options).result = .ok generated
    ∧ generated.declarations = batch.declarations.map (fun declaration =>
        "export type " ++ Text.upperFirst declaration.collection ++ declaration.parameters ++ " ="
          ++ "\n" ++ Text.indent (Text.join " &\n" declaration.segments))
    ∧ generated.imports = batch.imports.map fun item =>
        "import \x7b " ++ Text.upperFirst item.collection ++ " \x7d from '" ++ item.path ++ "'"
  distinct : batch.scope.Nodup
  apart : (batch.scope.map Text.upperFirst).Nodup ↔ Distinguishable batch.scope
  taken : ∀ name ∈ batch.scope, Text.upperFirst name ∈ parameterNames ↔ name ∈ takenNames
  /-- A reference stands for its own collection, unless the declaration binds its type name or another
  collection in scope is spelled like it. -/
  denoted : ∀ declaration ∈ batch.declarations, ∀ name ∈ declaration.references,
    declaration.Denotes batch (Text.upperFirst name) name
      ↔ Text.upperFirst name ∉ declaration.declared.map (·.name)
        ∧ ∀ other ∈ batch.scope, Text.SpelledAlike name.toList other.toList → name = other
  clear : (∀ name ∈ batch.scope, name ∉ takenNames) → Distinguishable batch.scope →
    ∀ declaration ∈ batch.declarations, ∀ name ∈ declaration.references,
      declaration.Denotes batch (Text.upperFirst name) name

/-- Type names of a batch clash exactly where names are spelled alike or taken by type parameters, and
nothing but a clash keeps a reference from standing for its own collection. -/
theorem references_denote {definitions : Value}
    (hregistry : (Registry.ofDefinitions definitions).result = .ok registry)
    (hdistinct : options.collections.Nodup)
    (hresolver : options.resolver = some fun name => .ok (path name))
    (hbatch : (Batch.generate registry options).result = .ok batch) :
    batch.NamesTypes registry options := by
  have hloaded := loaded_of_ofDefinitions hregistry
  have hscope := Batch.nodup_scope hloaded hdistinct hresolver hbatch
  constructor
  case written => exact ⟨_, generateTexts_eq_ok_iff.2 ⟨batch, hbatch, rfl⟩, rfl, rfl⟩
  case distinct => exact hscope
  case apart => exact nodup_upperFirst_iff hscope
  case taken => exact fun _ _ => upperFirst_mem_parameterNames
  case denoted =>
    intro declaration hdeclaration name hname
    exact denotes_iff hscope
      (Batch.mem_scope_of_reference hloaded hresolver hbatch hdeclaration hname)
  case clear =>
    intro hfree hapart declaration hdeclaration name hname
    have hin := Batch.mem_scope_of_reference hloaded hresolver hbatch hdeclaration hname
    refine (denotes_iff hscope hin).2 ⟨fun hbound => ?_, hapart name hin⟩
    obtain ⟨parameter, hparameter, hsame⟩ := List.mem_map.1 hbound
    have htaken := declared_mem_parameterNames hparameter
    rw [hsame, upperFirst_mem_parameterNames] at htaken
    exact hfree name hin htaken

theorem threadBatch_references_denote :
    (Registry.ofDefinitions threadDefinitions).result = .ok threadRegistry
      ∧ threadOptions.collections.Nodup
      ∧ threadOptions.resolver = some (fun name => .ok ("./" ++ name))
      ∧ (Batch.generate threadRegistry threadOptions).result = .ok threadBatch
      ∧ threadBatch.NamesTypes threadRegistry threadOptions := by
  have hloaded : (Registry.ofDefinitions threadDefinitions).result = .ok threadRegistry := rfl
  have hdistinct : threadOptions.collections.Nodup := by decide
  have hmade : (Batch.generate threadRegistry threadOptions).result = .ok threadBatch := rfl
  exact ⟨hloaded, hdistinct, rfl, hmade, references_denote hloaded hdistinct rfl hmade⟩

/-- Definitions of two collections that are spelled alike, one of which refers to the other and to one
whose type has the name of a type parameter. -/
def clashDefinitions : Value :=
  .obj [("note", .obj []),
    ("Note", .obj [("relationships", .arr [.obj [("childOf", .str "note")],
      .obj [("childOf", .str "relationships")]])]),
    ("relationships", .obj [])]

def clashRegistry : Registry :=
  (Registry.empty.registerAll clashDefinitions).1.finish.1

def clashOptions : Options :=
  { collections := ["note", "Note"], resolver := some fun name => .ok ("./" ++ name) }

def clashDeclaration : Declaration :=
  ⟨"Note", true, ⟨"id", "number", true⟩, [],
    [⟨"note", "note", "number"⟩, ⟨"relationships", "relationships", "number"⟩], []⟩

def clashBatch : Batch :=
  ⟨[⟨"note", true, ⟨"id", "number", true⟩, [], [], [⟨"Notes", "Note", false⟩]⟩, clashDeclaration],
    [⟨"relationships", "./relationships"⟩]⟩

theorem clashBatch_not_denoted :
    (Registry.ofDefinitions clashDefinitions).result = .ok clashRegistry
      ∧ clashOptions.collections.Nodup
      ∧ clashOptions.resolver = some (fun name => .ok ("./" ++ name))
      ∧ (Batch.generate clashRegistry clashOptions).result = .ok clashBatch
      ∧ ¬(clashBatch.scope.map Text.upperFirst).Nodup
      ∧ (∃ name ∈ clashBatch.scope, Text.upperFirst name ∈ parameterNames)
      ∧ ∃ declaration ∈ clashBatch.declarations, ∃ name ∈ declaration.references,
          ¬declaration.Denotes clashBatch (Text.upperFirst name) name := by
  refine ⟨rfl, by decide, rfl, rfl, by decide, ⟨"relationships", by decide, by decide⟩, ?_⟩
  exact ⟨clashDeclaration, by decide, "relationships", by decide, fun h => absurd h.1 (by decide)⟩

end StorageTypes
