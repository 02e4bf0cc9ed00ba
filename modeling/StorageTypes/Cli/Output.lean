import StorageTypes.Generation.Batch
import StorageTypes.Json.Printer
import StorageTypes.Terminal.Panel
import StorageTypes.Terminal.Table
import StorageTypes.Terminal.Tree

namespace StorageTypes.Cli

open Json (Value)
open Terminal (Markup)

structure Output where
  out : String := ""
  err : String := ""
  deriving DecidableEq, Repr

def Output.append (first second : Output) : Output :=
  ⟨first.out ++ second.out, first.err ++ second.err⟩

instance : Append Output := ⟨Output.append⟩

/-- What was printed before a text that cannot be read as markup, and the reason if there is one. -/
structure Printing where
  output : Output := {}
  fault : Option String := none
  deriving DecidableEq, Repr

namespace Printing

def toOut : Except String String → Printing
  | .ok text => { output := { out := text } }
  | .error reason => { fault := some reason }

def toErr : Except String String → Printing
  | .ok text => { output := { err := text } }
  | .error reason => { fault := some reason }

def andThen (first second : Printing) : Printing :=
  match first.fault with
  | none => ⟨first.output ++ second.output, second.fault⟩
  | some _ => first

def inTurn (printings : List Printing) : Printing :=
  printings.foldr andThen {}

end Printing

inductive Style where
  | forReaders
  | json
  deriving DecidableEq, Repr

def jsonOutput (value : Value) : Output :=
  { out := value.pretty ++ "\n" }

/-- A failure as it is shown: one of the schema, which has a context, or any other. -/
inductive Failure where
  | schema (error : SchemaError)
  | plain (message : String)

namespace Style

variable [Markup]

def table (style : Style) (title : String) (rows : List Value) (columns : List String) : Printing :=
  match style with
  | .json => { output := jsonOutput (.arr rows) }
  | .forReaders =>
    let cells := rows.map fun row =>
      columns.map fun name => ((row.member? name).getD (.str "")).text
    .toOut ((Terminal.Table.mk title columns cells).read.map Terminal.Table.text)

def endsText : Relationship → String
  | .childOf link => link.source ++ " -> " ++ link.target
  | .connects junction => junction.left ++ " <-> " ++ junction.right

def relationshipRow (direction : String) (relationship : Relationship) : List String :=
  [relationship.tag, direction, endsText relationship]

def line (text : String) : Printing :=
  .toOut ((Markup.read text).map Terminal.print)

def lineFor (label : String) : Option String → List Printing
  | none => []
  | some text => if text = "" then [] else [line (label ++ text)]

def tableFor (label : String) (head : List String) (rows : List (List String)) : List Printing :=
  if rows.isEmpty then []
  else
    [line ("\n[bold]" ++ label ++ " (" ++ toString rows.length ++ "):[/bold]"),
      .toOut ((Terminal.Table.mk "" head rows).read.map Terminal.Table.text)]

def fieldRow (name : String) (field : Field) : List String :=
  [name, field.kind, if field.optional then "✓" else ""]

def relationshipRows (collection : Collection) : List (List String) :=
  collection.relationships.map (relationshipRow "forward")
    ++ collection.reverse.map fun entry => relationshipRow ("reverse (" ++ entry.1 ++ ")") entry.2

def collection (style : Style) (collection : Collection) : Printing :=
  match style with
  | .json => { output := jsonOutput collection.toValue }
  | .forReaders =>
    .inTurn
      ([line ("\n[bold]Collection:[/bold] " ++ collection.name),
          line ("Primary key: " ++ collection.key.toValue.text)]
        ++ lineFor "Version: " collection.version
        ++ lineFor "Description: " collection.description
        ++ tableFor "Fields" ["Name", "Kind", "Optional"]
          (collection.fields.map fun entry => fieldRow entry.1 entry.2)
        ++ tableFor "Relationships" ["Kind", "Direction", "Collections"]
          (relationshipRows collection))

/-- Generated texts; readers get the source alone, as it is. -/
def generated (style : Style) (texts : Generated) : Printing :=
  match style, texts.toValue with
  | .json, .obj entries =>
    { output := jsonOutput (.obj (Dictionary.putAll [("success", .bool true)] entries)) }
  | _, _ => { output := { out := texts.source } }

def successLines (message : String) (details : Dictionary Value) : List String :=
  ("✓ " ++ message) :: details.map fun entry => "  " ++ entry.1 ++ ": " ++ entry.2.text

def success (style : Style) (message : String) (details : Dictionary Value) : Printing :=
  match style with
  | .json =>
    { output := jsonOutput (.obj
        (Dictionary.putAll [("success", .bool true), ("message", .str message)] details)) }
  | .forReaders =>
    .inTurn ((successLines message details).map fun text =>
      .toErr ((Markup.read text).map Terminal.print))

def failureText : Failure → String
  | .plain message => message
  | .schema error =>
    if error.context.isEmpty then error.message
    else
      error.message ++ "\n\n"
        ++ Text.join "\n" (error.context.map fun entry => entry.1 ++ ": " ++ entry.2.text)

def failure (style : Style) (failure : Failure) : Printing :=
  match style, failure with
  | .json, .schema error => { output := jsonOutput error.toValue }
  | .json, .plain message => { output := jsonOutput (.obj [("error", .str message)]) }
  | .forReaders, failure =>
    .toErr ((Markup.read (failureText failure)).map (Terminal.panel "Error"))

def data (style : Style) (value : Value) : Printing :=
  match style with
  | .json => { output := jsonOutput value }
  | .forReaders => .toOut (Terminal.valueText value)

end Style

end StorageTypes.Cli
