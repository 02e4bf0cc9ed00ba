import StorageTypes.Log
import StorageTypes.Schema.Definition

namespace StorageTypes

open Json (Value)

/-- A relationship as it shows on another collection, under an alias. -/
structure Backlink where
  target : String
  reverseAlias : String
  relationship : Relationship
  deriving DecidableEq, Repr

/-- Where a relationship shows: on its target under its reverse alias; a relationship between two
collections shows on each of them under the plural of the other. -/
def Relationship.backlinks (relationship : Relationship) : List Backlink :=
  match relationship with
  | .childOf link => [⟨link.target, link.reverseAlias, relationship⟩]
  | .connects junction =>
    [⟨junction.left, Text.pluralize junction.right, relationship⟩,
      ⟨junction.right, Text.pluralize junction.left, relationship⟩]

namespace Collection

def backlinks (collection : Collection) : List Backlink :=
  collection.relationships.flatMap (·.backlinks)

def withoutReverse (collection : Collection) : Collection :=
  { collection with reverse := [] }

end Collection

/-- The first text of a list that came before, in the list or among those already seen. -/
def firstRepeated (seen : List String) : List String → Option String
  | [] => none
  | text :: rest => if text ∈ seen then some text else firstRepeated (text :: seen) rest

theorem firstRepeated_eq_none_iff {seen texts : List String} :
    firstRepeated seen texts = none ↔ texts.Nodup ∧ ∀ text ∈ texts, text ∉ seen := by
  induction texts generalizing seen with
  | nil => simp [firstRepeated]
  | cons text rest ih =>
    by_cases h : text ∈ seen
    · simp [firstRepeated, h]
    · simp only [firstRepeated, h, if_false, ih, List.nodup_cons, List.mem_cons, not_or,
        forall_eq_or_imp]
      constructor
      · rintro ⟨hrest, hseen⟩
        exact ⟨⟨fun hmem => (hseen text hmem).1 rfl, hrest⟩, not_false, fun t ht => (hseen t ht).2⟩
      · rintro ⟨⟨hmem, hrest⟩, _, hseen⟩
        exact ⟨hrest, fun t ht => ⟨fun he => hmem (he ▸ ht), hseen t ht⟩⟩

/-- The registered collections in the order of their first registration, and whether the reverse
relationships are up to date. -/
structure Registry where
  collections : Dictionary Collection := []
  initialized : Bool := false
  deriving DecidableEq, Repr

namespace Registry

def empty : Registry := {}

def names (registry : Registry) : List String :=
  Dictionary.names registry.collections

/-- A collection put under a name: in place of the one that has the name, else at the end. -/
def place (registry : Registry) (name : String) (collection : Collection) : Registry :=
  ⟨Dictionary.put name collection registry.collections, false⟩

def registerModel (registry : Registry) (name : String) (collection : Collection) :
    Registry × Collection :=
  let named := { collection with name := name }
  (registry.place name named, named)

def register (registry : Registry) (name : String) (definition : Value) :
    Registry × Except DefinitionError Collection :=
  match Collection.ofDefinition name definition with
  | .error e => (registry, .error e)
  | .ok collection => (registry.place name collection, .ok collection)

def registerEach (registry : Registry) :
    List (String × Value) → Registry × Except DefinitionError Unit
  | [] => (registry, .ok ())
  | (name, definition) :: rest =>
    match registry.register name definition with
    | (next, .error e) => (next, .error e)
    | (next, .ok _) => next.registerEach rest

def registerAll (registry : Registry) (definitions : Value) :
    Registry × Except DefinitionError Unit :=
  match definitions with
  | .obj entries => registry.registerEach entries
  | other => (registry, .error (.misfit (.noEntries other.typeName)))

def addBacklink (collections : Dictionary Collection) (backlink : Backlink) :
    Except SchemaError (Dictionary Collection) :=
  match Dictionary.find? backlink.target collections with
  | none => .error (.unknownCollection backlink.target (Dictionary.names collections))
  | some target =>
    if Dictionary.holds backlink.reverseAlias target.reverse then
      .error (.badDefinition target.name
        ("reverse relationship alias '" ++ backlink.reverseAlias ++ "' is used more than once"))
    else
      .ok (Dictionary.put backlink.target
        { target with
          reverse := target.reverse ++ [(backlink.reverseAlias, backlink.relationship)] }
        collections)

def addBacklinks (collections : Dictionary Collection) :
    List Backlink → Dictionary Collection × Except SchemaError Unit
  | [] => (collections, .ok ())
  | backlink :: rest =>
    match addBacklink collections backlink with
    | .error e => (collections, .error e)
    | .ok next => addBacklinks next rest

/-- Checks the forward aliases of collections and adds what follows from their relationships, one
collection after the other. -/
def link (collections : Dictionary Collection) :
    List Collection → Dictionary Collection × Except SchemaError Unit
  | [] => (collections, .ok ())
  | collection :: rest =>
    match firstRepeated [] collection.forwardAliases with
    | some repeated =>
      (collections, .error (.badDefinition collection.name
        ("relationship alias '" ++ repeated ++ "' is used more than once")))
    | none =>
      match addBacklinks collections collection.backlinks with
      | (next, .error e) => (next, .error e)
      | (next, .ok _) => link next rest

/-- Derives all reverse relationships anew. A failure leaves those added before it and the flag as it
was. -/
def finish (registry : Registry) : Registry × Except SchemaError Unit :=
  let cleared := Dictionary.mapValues Collection.withoutReverse registry.collections
  match link cleared (Dictionary.values cleared) with
  | (collections, .error e) => (⟨collections, registry.initialized⟩, .error e)
  | (collections, .ok _) => (⟨collections, true⟩, .ok ())

def get (registry : Registry) (name : String) : Except SchemaError Collection :=
  if registry.initialized then
    match Dictionary.find? name registry.collections with
    | some collection => .ok collection
    | none => .error (.unknownCollection name registry.names)
  else .error .notInitialized

def registrationEntry (entry : String × Collection) : LogEntry :=
  ⟨.debug, "Registered collection '" ++ entry.1 ++ "' with "
    ++ toString entry.2.fields.length ++ " fields"⟩

def finishEntry (registry : Registry) : LogEntry :=
  ⟨.info, "Storage registry initialized with " ++ toString registry.collections.length
    ++ " collections"⟩

def ofDefinitions (definitions : Value) : Logged DefinitionError Registry :=
  match empty.registerAll definitions with
  | (registered, .error e) => ⟨registered.collections.map registrationEntry, .error e⟩
  | (registered, .ok _) =>
    let log := registered.collections.map registrationEntry
    match registered.finish with
    | (_, .error e) => ⟨log, .error (.schema e)⟩
    | (finished, .ok _) => ⟨log ++ [finished.finishEntry], .ok finished⟩

end Registry

end StorageTypes
