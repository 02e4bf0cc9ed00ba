import StorageTypes.Generation.Declaration
import StorageTypes.Generation.Import

namespace StorageTypes

open Json (Value)

/-- Why a batch cannot be generated. -/
inductive GenerationError where
  | schema (error : SchemaError)
  | importPath (fault : ImportPath.Fault)

/-- Declarations in the order in which they were asked for, and their imports. -/
structure Batch where
  declarations : List Declaration
  imports : List Import
  deriving DecidableEq, Repr

namespace Batch

/-- The source text: the imports, a blank line, and the declarations with blank lines between them. -/
def source (batch : Batch) : String :=
  let imports := if batch.imports.isEmpty then []
    else [Text.join "\n" (batch.imports.map (·.text))]
  Text.join "\n\n" (imports ++ [Text.join "\n\n" (batch.declarations.map (·.text)) ++ "\n"])

def keyTypesIn (registry : Registry) (options : Options) : KeyTypes := fun name =>
  match registry.get name with
  | .error e => .error e
  | .ok collection => TypeMap.keyType options.overrides options.strategy collection

def declare (registry : Registry) (options : Options) (name : String) :
    Logged SchemaError Declaration :=
  (Logged.ofExcept (registry.get name)).bind fun collection =>
  (Declaration.ofCollection collection options (keyTypesIn registry options)).bind fun declaration =>
  (Logged.note .debug ("Generated declaration for collection '" ++ name ++ "'")).map fun _ =>
  declaration

def declareAll (registry : Registry) (options : Options) :
    List String → Logged SchemaError (List Declaration)
  | [] => .pure []
  | name :: rest =>
    (declare registry options name).bind fun declaration =>
    (declareAll registry options rest).map (declaration :: ·)

def doneEntry (batch : Batch) (warnings : Nat) : LogEntry :=
  ⟨.info, "Generated " ++ toString batch.declarations.length ++ " declarations with "
    ++ toString batch.imports.length ++ " imports (" ++ toString warnings ++ " warnings)"⟩

def generate (registry : Registry) (options : Options) : Logged GenerationError Batch :=
  let declared := declareAll registry options options.collections
  (declared.mapError .schema).bind fun declarations =>
  match importsFor options (declarations.flatMap (·.references)) with
  | .error fault => .ofExcept (.error (.importPath fault))
  | .ok imports =>
    let batch : Batch := ⟨declarations, imports⟩
    ⟨[batch.doneEntry (warningsOf declared.log).length], .ok batch⟩

end Batch

structure Generated where
  source : String
  declarations : List String := []
  imports : List String := []
  warnings : List String := []
  deriving DecidableEq, Repr

namespace Generated

def ofBatch (batch : Batch) (log : List LogEntry) : Generated :=
  ⟨batch.source, batch.declarations.map (·.text), batch.imports.map (·.text), warningsOf log⟩

def check : Value → Checked Generated :=
  Check.model fun object =>
    let texts := fun name => Check.optional name [] (Check.list Check.text) object
    let checked := Checked.apply (.ok Generated.mk) (Check.required "source" Check.text object)
    let checked := checked.apply (texts "declarations")
    let checked := checked.apply (texts "imports")
    checked.apply (texts "warnings")

def toValue (generated : Generated) : Value :=
  .obj [("source", .str generated.source),
    ("declarations", .arr (generated.declarations.map .str)),
    ("imports", .arr (generated.imports.map .str)),
    ("warnings", .arr (generated.warnings.map .str))]

end Generated

def generateTexts (registry : Registry) (options : Options) : Logged GenerationError Generated :=
  let run := Batch.generate registry options
  ⟨run.log, run.result.map fun batch => Generated.ofBatch batch run.log⟩

end StorageTypes
