import StorageTypes.Proofs.Rearrangement
import StorageTypes.Proofs.Sessions

namespace StorageTypes

open Json (Value)

variable {registry : Registry} {entries : List (String × Value)} {value : Value}

theorem names_of_ofDefinitions (h : (Registry.ofDefinitions (.obj entries)).result = .ok registry) :
    registry.names = firsts (Dictionary.names entries) := by
  have haccepted := (ofDefinitions_obj_iff.1 h).1
  rw [Registry.names, (stored_of_ofDefinitions h).names_eq, ← names_accepted haccepted]
  exact Dictionary.names_ofList (accepted entries)

theorem mem_names_of_same (h : (Registry.ofDefinitions (.obj entries)).result = .ok registry)
    (hsame : (Registry.ofDefinitions value).result = .ok registry) {name : String}
    (hname : name ∈ Dictionary.names entries) : value.member? name ≠ none := by
  cases value with
  | obj others =>
    have hnames := (names_of_ofDefinitions h).symm.trans (names_of_ofDefinitions hsame)
    have hother : name ∈ firsts (Dictionary.names others) := hnames ▸ mem_firsts.2 hname
    exact fun habsent => Dictionary.find?_eq_none_iff.1 habsent (mem_firsts.1 hother)
  | _ => cases hsame

namespace Cli

def nestingName : String := "collections"

def nest (entries : List (String × Value)) : List (String × Value) :=
  [(nestingName, .obj entries)]

/-- A session that has loaded nothing yet, with the object in its schema file. -/
structure Session.Finds (session : Session) (disk : Disk) (entries : List (String × Value)) : Prop where
  fresh : session.loaded = none
  reads : readObject session.path (disk.read session.path) = .ok (.obj entries)

def loadedFrom (definitions : Value) : Logged LoadError Registry :=
  (Registry.ofDefinitions definitions).mapError .definition

/-- What a session answers where entries stand in its schema file directly, next to what it answers where
they are nested. -/
structure Nesting (entries : List (String × Value)) (direct nested : Logged LoadError Registry) :
    Prop where
  nested_eq : nested = loadedFrom (.obj entries)
  direct_eq : nestingName ∉ Dictionary.names entries → direct = nested
  under : ∀ value, Dictionary.find? nestingName entries = some value → direct = loadedFrom value
  same_iff : direct.result = nested.result
    ↔ ∀ value, Dictionary.find? nestingName entries = some value →
      (Registry.ofDefinitions value).result = (Registry.ofDefinitions (.obj entries)).result
  differs : ∀ value, Dictionary.find? nestingName entries = some value →
    value.member? nestingName = none → (∃ registry, nested.result = .ok registry) →
      direct.result ≠ nested.result

variable {session direct nested : Session} {disk other : Disk} {definitions : Value}

theorem Session.registry_fresh (h : session.loaded = none) :
    (session.registry disk).2 = loadRegistry session.path (disk.read session.path) := by
  simp only [Session.registry, h]
  split <;> rfl

theorem Session.Finds.registry_eq (h : session.Finds disk entries) :
    (session.registry disk).2 = loadedFrom (definitionsIn (.obj entries)) := by
  rw [Session.registry_fresh h.fresh, loadRegistry, h.reads]
  rfl

theorem Session.finds_written (hfresh : session.loaded = none) (hwritable : disk.Writable session.path)
    {text : String} (htext : readObject session.path (.ok text) = .ok (.obj entries)) :
    session.Finds (disk.written session.path text) entries := by
  obtain ⟨after, hwritten, hread⟩ := hwritable.read_write text
  refine ⟨hfresh, ?_⟩
  rw [Disk.written, hwritten, hread, htext]

theorem definitionsIn_obj (entries : List (String × Value)) :
    definitionsIn (.obj entries)
      = (Dictionary.find? nestingName entries).getD (.obj entries) := rfl

theorem definitionsIn_of_find? (h : Dictionary.find? nestingName entries = some value) :
    definitionsIn (.obj entries) = value := by
  rw [definitionsIn_obj, h, Option.getD_some]

theorem definitionsIn_of_new (h : nestingName ∉ Dictionary.names entries) :
    definitionsIn (.obj entries) = .obj entries := by
  rw [definitionsIn_obj, Dictionary.find?_eq_none_iff.2 h, Option.getD_none]

theorem definitionsIn_nest (entries : List (String × Value)) :
    definitionsIn (.obj (nest entries)) = .obj entries := rfl

theorem loadedFrom_result_inj :
    (loadedFrom value).result = (loadedFrom definitions).result
      ↔ (Registry.ofDefinitions value).result = (Registry.ofDefinitions definitions).result :=
  mapError_inj fun _ _ h => LoadError.definition.inj h

/-- The name decides, and has to: no way to read schema files reads all nested ones and makes no
difference between them and those that stand directly. -/
theorem no_reader_for_both (read : Value → Except DefinitionError Registry)
    (hnested : ∀ entries, read (.obj (nest entries)) = (Registry.ofDefinitions (.obj entries)).result) :
    ∃ entries, read (.obj entries) ≠ read (.obj (nest entries)) := by
  refine ⟨nest [], fun hsame => ?_⟩
  rw [hnested, hnested] at hsame
  have hempty : (Registry.ofDefinitions (.obj [])).result = .ok ⟨[], true⟩ := rfl
  have hnames := names_of_ofDefinitions (hsame.symm.trans hempty)
  cases hnames

/-- A nested schema is loaded whatever its collections are called. One that stands in its file directly is
loaded the same way, with the same log, unless one of its collections has the name for nesting. -/
theorem nesting_exact (hdirect : direct.Finds disk entries)
    (hnested : nested.Finds other (nest entries)) :
    Nesting entries (direct.registry disk).2 (nested.registry other).2 := by
  rw [hdirect.registry_eq, hnested.registry_eq, definitionsIn_nest]
  constructor
  case nested_eq => rfl
  case direct_eq =>
    intro hnew
    rw [definitionsIn_of_new hnew]
  case under =>
    intro value hvalue
    rw [definitionsIn_of_find? hvalue]
  case same_iff =>
    cases hfind : Dictionary.find? nestingName entries with
    | none =>
      rw [definitionsIn_of_new (Dictionary.find?_eq_none_iff.1 hfind)]
      exact ⟨nofun, fun _ => rfl⟩
    | some value =>
      rw [definitionsIn_of_find? hfind, loadedFrom_result_inj]
      exact ⟨fun hsame _ hvalue => Option.some.inj hvalue ▸ hsame, fun h => h value rfl⟩
  case differs =>
    intro value hvalue habsent ⟨registry, hregistry⟩ hsame
    rw [definitionsIn_of_find? hvalue, hregistry, loadedFrom, Logged.mapError_eq_ok_iff] at hsame
    have hname : nestingName ∈ Dictionary.names entries :=
      Dictionary.mem_names_of_mem (Dictionary.mem_of_find? hvalue)
    exact mem_names_of_same (Logged.mapError_eq_ok_iff.1 hregistry) hsame hname habsent

def pairEntries : List (String × Value) := [("list", .obj []), ("note", .obj [])]

def pairText : String := "\x7b\"list\": \x7b\x7d, \"note\": \x7b\x7d\x7d"

def nestedPairText : String := "\x7b\"collections\": " ++ pairText ++ "\x7d"

def schemaSession : Session := { path := "schema.json" }

theorem schemaSession_finds {text : String} {entries : List (String × Value)}
    (h : Json.readAll Json.nestingLimit (plainBreaks text.toList) = .ok (.obj entries)) :
    schemaSession.Finds (noteDisk.written "schema.json" text) entries := by
  refine Session.finds_written rfl noteDisk_schema_writable ?_
  rw [readObject_text, h]

theorem nesting_pair :
    schemaSession.Finds (noteDisk.written "schema.json" pairText) pairEntries
      ∧ schemaSession.Finds (noteDisk.written "schema.json" nestedPairText) (nest pairEntries)
      ∧ (schemaSession.registry (noteDisk.written "schema.json" pairText)).2
        = (schemaSession.registry (noteDisk.written "schema.json" nestedPairText)).2 := by
  have hdirect : schemaSession.Finds (noteDisk.written "schema.json" pairText) pairEntries := by
    refine schemaSession_finds ?_
    delta pairText
    simp only [String.reduceToList]
    rfl
  have hnested :
      schemaSession.Finds (noteDisk.written "schema.json" nestedPairText) (nest pairEntries) := by
    refine schemaSession_finds ?_
    delta nestedPairText pairText
    simp only [String.reduceAppend, String.reduceToList]
    rfl
  have hnew : nestingName ∉ Dictionary.names pairEntries := by decide
  exact ⟨hdirect, hnested, (nesting_exact hdirect hnested).direct_eq hnew⟩

def shelfEntries : List (String × Value) := [("note", .obj []), ("collections", .obj [])]

def shelfText : String := "\x7b\"note\": \x7b\x7d, \"collections\": \x7b\x7d\x7d"

def nestedShelfText : String := "\x7b\"collections\": " ++ shelfText ++ "\x7d"

/-- The schema that holds the two collections directly is read as an empty one. -/
theorem shelf_misread :
    schemaSession.Finds (noteDisk.written "schema.json" shelfText) shelfEntries
      ∧ schemaSession.Finds (noteDisk.written "schema.json" nestedShelfText) (nest shelfEntries)
      ∧ (schemaSession.registry (noteDisk.written "schema.json" shelfText)).2.result
        = .ok ⟨[], true⟩
      ∧ (∃ registry,
        (schemaSession.registry (noteDisk.written "schema.json" nestedShelfText)).2.result = .ok registry
          ∧ registry.names = ["note", "collections"])
      ∧ (schemaSession.registry (noteDisk.written "schema.json" shelfText)).2.result
        ≠ (schemaSession.registry (noteDisk.written "schema.json" nestedShelfText)).2.result := by
  have hdirect : schemaSession.Finds (noteDisk.written "schema.json" shelfText) shelfEntries := by
    refine schemaSession_finds ?_
    delta shelfText
    simp only [String.reduceToList]
    rfl
  have hnested :
      schemaSession.Finds (noteDisk.written "schema.json" nestedShelfText) (nest shelfEntries) := by
    refine schemaSession_finds ?_
    delta nestedShelfText shelfText
    simp only [String.reduceAppend, String.reduceToList]
    rfl
  rw [hdirect.registry_eq, hnested.registry_eq, definitionsIn_nest]
  have hempty : (loadedFrom (definitionsIn (.obj shelfEntries))).result = .ok ⟨[], true⟩ := rfl
  obtain ⟨registry, hboth, hnames⟩ :
      ∃ registry, (loadedFrom (.obj shelfEntries)).result = .ok registry
        ∧ registry.names = ["note", "collections"] := ⟨_, rfl, rfl⟩
  refine ⟨hdirect, hnested, hempty, ⟨registry, hboth, hnames⟩, fun hsame => ?_⟩
  rw [hempty, hboth] at hsame
  cases hsame
  cases hnames

end Cli

end StorageTypes
