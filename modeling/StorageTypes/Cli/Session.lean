import StorageTypes.Cli.Disk
import StorageTypes.Json.Reader
import StorageTypes.Registry.Basic

namespace StorageTypes.Cli

open Json (Value)

/-- Why a schema file cannot be loaded. -/
inductive LoadError where
  | file (fault : FileFault)
  | json (error : Json.ReadError)
  | notObject (path typeName : String)
  | definition (error : DefinitionError)

def notObjectMessage (path typeName : String) : String :=
  "Expected a JSON object in " ++ path ++ ", got " ++ typeName

def defaultSchemaPath : String := "./schema.json"

/-- The path of the schema file: the one given, else the one of the environment, else the default.
Empty paths count as not given. -/
def schemaPath (given environment : Option String) : String :=
  match given.filter (· != ""), environment.filter (· != "") with
  | some path, _ => path
  | none, some path => path
  | none, none => defaultSchemaPath

/-- A text with plain line breaks in place of carriage returns, alone or before a line break. -/
def plainBreaks : List Char → List Char
  | [] => []
  | '\r' :: '\n' :: rest => '\n' :: plainBreaks rest
  | c :: rest => (if c = '\r' then '\n' else c) :: plainBreaks rest

def readObject (path : String) (content : Except FileFault String) : Except LoadError Value :=
  match content with
  | .error fault => .error (.file fault)
  | .ok text =>
    match Json.read (String.ofList (plainBreaks text.toList)) with
    | .error e => .error (.json e)
    | .ok (.obj entries) => .ok (.obj entries)
    | .ok other => .error (.notObject path other.typeName)

/-- The definitions in a schema file: the object itself, or what it holds under `collections`. -/
def definitionsIn (object : Value) : Value :=
  (object.member? "collections").getD object

def loadRegistry (path : String) (content : Except FileFault String) :
    Logged LoadError Registry :=
  (Logged.ofExcept (readObject path content)).bind fun object =>
  (Registry.ofDefinitions (definitionsIn object)).mapError .definition

/-- A schema file with its registry, once that has been loaded. -/
structure Session where
  path : String
  loaded : Option Registry := none

/-- The registry of a session: the one that it keeps, else the one of the file as it is now. A failure
leaves nothing behind. -/
def Session.registry (session : Session) (disk : Disk) : Session × Logged LoadError Registry :=
  match session.loaded with
  | some registry => (session, .pure registry)
  | none =>
    let attempt := loadRegistry session.path (disk.read session.path)
    match attempt.result with
    | .ok registry => ({ session with loaded := some registry }, attempt)
    | .error _ => (session, attempt)

end StorageTypes.Cli
