import StorageTypes.Cli.Arguments
import StorageTypes.Cli.Output
import StorageTypes.Cli.Session
import StorageTypes.Generation.TypeMapping

namespace StorageTypes.Cli

open Json (Value)
open Terminal (Markup)

def versionText : String := "0.1.0"

def issuesText (issues : List Issue) : String :=
  Text.join "\n" (issues.map fun issue =>
    Text.join "." (issue.path.map fun step =>
      match step with
      | .entry name => name
      | .item index => toString index) ++ ": " ++ issue.problem.code)

def definitionFailure : DefinitionError → Failure
  | .schema error => .schema error
  | .model collection issues => .schema (.badDefinition collection (issuesText issues))
  | .relationship issues => .plain (issuesText issues)
  | .misfit misfit => .plain misfit.message

def loadFailure : LoadError → Failure
  | .file fault => .plain fault.message
  | .json error => .plain error.message
  | .notObject path typeName => .plain (notObjectMessage path typeName)
  | .definition error => definitionFailure error

def generationFailure : GenerationError → Failure
  | .schema error => .schema error
  | .importPath fault => .plain fault.message

/-- How a run ends. -/
structure Report where
  exit : Nat
  output : Output := {}
  deriving DecidableEq, Repr

/-- A run: finished, or about to write a file, with the end that depends on it. -/
inductive Run where
  | finished (report : Report)
  | writing (path text : String) (ending : Except FileFault Unit → Report)

def misunderstood : Report := ⟨2, {}⟩

def GenerateRequest.options [ImportPath.Host] (request : GenerateRequest) (registry : Registry) :
    Except Failure Options :=
  match TypeMapping.parseAll request.mappings with
  | .error fault => .error (.plain fault.message)
  | .ok overrides =>
    match ImportPath.resolver? request.template with
    | .error fault => .error (.plain fault.message)
    | .ok resolver =>
      .ok
        { collections := if request.collections.isEmpty then registry.names
            else request.collections
          strategy := request.strategy
          overrides := overrides
          resolver := resolver
          skipped := request.skipped
          optionalKey := !request.fixedKey }

def GenerateRequest.texts [ImportPath.Host] (request : GenerateRequest) (registry : Registry) :
    Logged Failure Generated :=
  (Logged.ofExcept (request.options registry)).bind fun options =>
  (generateTexts registry options).mapError generationFailure

def listRow (entry : String × Collection) : Value :=
  .obj [("Name", .str entry.1), ("Primary key", entry.2.key.toValue),
    ("Fields", .int entry.2.fields.length),
    ("Relationships", .int entry.2.relationships.length),
    ("Reverse", .int entry.2.reverse.length)]

def listPrinting [Markup] (style : Style) (registry : Registry) : Printing :=
  match style with
  | .json => style.data (.arr (registry.names.map .str))
  | .forReaders =>
    style.table ("Collections (" ++ toString registry.collections.length ++ " total)")
      (registry.collections.map listRow)
      ["Name", "Primary key", "Fields", "Relationships", "Reverse"]

namespace Invocation

def style (invocation : Invocation) : Style :=
  if invocation.json then .json else .forReaders

def logOutput (invocation : Invocation) (log : List LogEntry) : Output :=
  { err := Terminal.logFor invocation.verbosity log }

variable [ImportPath.Host] [Markup]

/-- The end of a run that failed. A failure that cannot be read as markup is not shown. -/
def failed (invocation : Invocation) (log : List LogEntry) (failure : Failure) : Report :=
  ⟨1, invocation.logOutput log ++ (invocation.style.failure failure).output⟩

def ended (invocation : Invocation) (log : List LogEntry) (printing : Printing) : Report :=
  let shown := invocation.logOutput log ++ printing.output
  match printing.fault with
  | none => ⟨0, shown⟩
  | some reason => ⟨1, shown ++ (invocation.style.failure (.plain reason)).output⟩

def saved (generated : Generated) (path : String) : String × Dictionary Value :=
  ("Generated " ++ toString generated.declarations.length ++ " declarations",
    [("output", .str path), ("imports", .int generated.imports.length),
      ("warnings", .arr (generated.warnings.map .str))])

/-- The run that hands out generated texts: printed, or about to be written to a file. An empty path
counts as none. -/
def handOut (invocation : Invocation) (output : Option String) (generated : Generated)
    (log : List LogEntry) : Run :=
  match output.filter (· != "") with
  | none => .finished (invocation.ended log (invocation.style.generated generated))
  | some path =>
    .writing path generated.source fun outcome =>
      match outcome with
      | .error fault => invocation.failed log (.plain fault.message)
      | .ok _ =>
        let (message, details) := saved generated path
        invocation.ended log (invocation.style.success message details)

def generate (invocation : Invocation) (request : GenerateRequest) (registry : Registry)
    (log : List LogEntry) : Run :=
  let texts := request.texts registry
  match texts.result with
  | .error failure => .finished (invocation.failed (log ++ texts.log) failure)
  | .ok generated => invocation.handOut request.output generated (log ++ texts.log)

def path (invocation : Invocation) (environment : Environment) : String :=
  schemaPath invocation.schema environment.schema

def run (invocation : Invocation) (path : String) (content : Except FileFault String) : Run :=
  match invocation.command with
  | .version =>
    .finished (invocation.ended [] { output := { out := "typegen v" ++ versionText ++ "\n" } })
  | command =>
    let loaded := loadRegistry path content
    match loaded.result with
    | .error e => .finished (invocation.failed loaded.log (loadFailure e))
    | .ok registry =>
      match command with
      | .describe name =>
        match registry.get name with
        | .error e => .finished (invocation.failed loaded.log (.schema e))
        | .ok collection =>
          .finished (invocation.ended loaded.log (invocation.style.collection collection))
      | .generate request => invocation.generate request registry loaded.log
      | _ => .finished (invocation.ended loaded.log (listPrinting invocation.style registry))

end Invocation

def Run.onDisk (disk : Disk) : Run → Report × Disk
  | .finished report => (report, disk)
  | .writing path text ending =>
    match disk.write path text with
    | .error fault => (ending (.error fault), disk)
    | .ok after => (ending (.ok ()), after)

/-- An invocation on a disk: its end, and the disk after it. -/
def Invocation.onDisk [ImportPath.Host] [Markup] (invocation : Invocation) (disk : Disk)
    (environment : Environment) : Report × Disk :=
  let path := invocation.path environment
  (invocation.run path (disk.read path)).onDisk disk

def runOnDisk [ImportPath.Host] [Markup] (disk : Disk) (environment : Environment)
    (arguments : List String) : Report × Disk :=
  match Invocation.parse environment arguments with
  | none => (misunderstood, disk)
  | some invocation => invocation.onDisk disk environment

end StorageTypes.Cli
