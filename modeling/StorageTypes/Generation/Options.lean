import StorageTypes.ImportPath.Template
import StorageTypes.Schema.Failure

namespace StorageTypes

open Json (Value)

/-- What to generate, and how. The keys of generated records are left to the reader's choice if
`optionalKey`, and nothing is imported without a resolver. -/
structure Options where
  collections : List String
  strategy : KeyStrategy := .number
  overrides : Dictionary String := []
  resolver : Option ImportPath.Resolver := none
  skipped : List String := []
  optionalKey : Bool := true

namespace Options

def checkStrategy : Value → Checked KeyStrategy
  | .str word =>
    match KeyStrategy.ofName? word with
    | some strategy => .ok strategy
    | none => .fail .notChoice
  | _ => .fail .notChoice

def checkResolver (resolver : Option ImportPath.Resolver) :
    Value → Checked (Option ImportPath.Resolver)
  | .null => .ok resolver
  | _ => .fail .notFunction

/-- Options from an object and what was found under `field_type_map`; `resolver` is what a `null`
under `generate_import` stands for. -/
def assemble (resolver : Option ImportPath.Resolver) (overrides : Checked (Dictionary String))
    (object : Value) : Checked Options :=
  let checked := Checked.apply (.ok Options.mk)
    (Check.required "collections" (Check.list Check.text) object)
  let checked := checked.apply (Check.optional "auto_pk_type" .number checkStrategy object)
  let checked := checked.apply overrides
  let checked := checked.apply
    (Check.optional "generate_import" resolver (checkResolver resolver) object)
  let checked := checked.apply (Check.optional "skip_types" [] (Check.list Check.text) object)
  checked.apply (Check.optional "optional_pk" true Check.flag object)

def checkWith (resolver : Option ImportPath.Resolver) : Value → Checked Options :=
  Check.model fun object =>
    assemble resolver (Check.optional "field_type_map" [] (Check.entries Check.text) object) object

def check : Value → Checked Options :=
  checkWith none

def toValue (options : Options) : Value :=
  .obj [("collections", .arr (options.collections.map .str)),
    ("auto_pk_type", .str options.strategy.name),
    ("field_type_map", .obj (Dictionary.mapValues .str options.overrides)),
    ("generate_import", .null), ("skip_types", .arr (options.skipped.map .str)),
    ("optional_pk", .bool options.optionalKey)]

end Options

inductive OptionsError where
  | template (fault : ImportPath.NoPlaceholder)
  | model (issues : List Issue)

def splitTemplate [ImportPath.Host] (object : Value) :
    Except ImportPath.NoPlaceholder (Option ImportPath.Resolver × Value) :=
  match object with
  | .obj entries =>
    match Dictionary.find? "generate_import" entries with
    | some (.str template) =>
      (ImportPath.resolver? (some template)).map fun resolver =>
        (resolver, .obj (Dictionary.put "generate_import" .null entries))
    | _ => .ok (none, object)
  | _ => .ok (none, object)

/-- Options from an object in which a text under `generate_import` is a template. -/
def Options.read [ImportPath.Host] (object : Value) : Except OptionsError Options :=
  match splitTemplate object with
  | .error fault => .error (.template fault)
  | .ok (resolver, plain) => (Options.checkWith resolver plain).mapError .model

end StorageTypes
