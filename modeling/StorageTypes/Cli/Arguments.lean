import StorageTypes.Schema.Basic

namespace StorageTypes.Cli

/-- An option with its spellings. An option that takes a value takes the rest of its argument or the
whole next argument, whatever it looks like. -/
structure OptionSpec where
  name : String
  long : String
  short : Option Char := none
  takesValue : Bool := false
  deriving DecidableEq, Repr

structure Given where
  name : String
  value : String
  deriving DecidableEq, Repr

structure Parsed where
  given : List Given := []
  rest : List String := []
  deriving DecidableEq, Repr

def parseCluster (specs : List OptionSpec) :
    List Char → Option (List Given × Option String)
  | [] => some ([], none)
  | c :: rest =>
    match specs.find? (·.short == some c) with
    | none => none
    | some spec =>
      if spec.takesValue then
        if rest.isEmpty then some ([], some spec.name)
        else some ([⟨spec.name, String.ofList rest⟩], none)
      else
        (parseCluster specs rest).map fun (given, lacking) => (⟨spec.name, ""⟩ :: given, lacking)

/-- What one argument says: options, with perhaps the name of one that lacks its value; or nothing that
can be understood. -/
def parseOption (specs : List OptionSpec) (argument : String) :
    Option (List Given × Option String) :=
  let chars := argument.toList
  let label := String.ofList (chars.takeWhile (· != '='))
  let value := (chars.dropWhile (· != '=')).tail?
  match specs.find? (·.long == label), value with
  | some spec, none => if spec.takesValue then some ([], some spec.name) else some ([⟨spec.name, ""⟩], none)
  | some spec, some value =>
    if spec.takesValue then some ([⟨spec.name, String.ofList value⟩], none) else none
  | none, _ =>
    if "--".toList.isPrefixOf chars then none else parseCluster specs chars.tail

def isOption (argument : String) : Bool :=
  match argument.toList with
  | '-' :: _ :: _ => true
  | _ => false

/-- Options and other arguments. Two dashes end the options; so does the first other argument, unless
they may be `mixed`. -/
def parseArguments (specs : List OptionSpec) (mixed : Bool) : List String → Option Parsed
  | [] => some {}
  | argument :: rest =>
    if argument = "--" then some ⟨[], rest⟩
    else if isOption argument then
      match parseOption specs argument with
      | none => none
      | some (given, none) =>
        (parseArguments specs mixed rest).map fun parsed =>
          { parsed with given := given ++ parsed.given }
      | some (given, some name) =>
        match rest with
        | [] => none
        | value :: rest =>
          (parseArguments specs mixed rest).map fun parsed =>
            { parsed with given := given ++ ⟨name, value⟩ :: parsed.given }
    else if mixed then
      (parseArguments specs mixed rest).map fun parsed =>
        { parsed with rest := argument :: parsed.rest }
    else some ⟨[], argument :: rest⟩

namespace Parsed

def values (parsed : Parsed) (name : String) : List String :=
  (parsed.given.filter (·.name == name)).map (·.value)

def last? (parsed : Parsed) (name : String) : Option String :=
  (parsed.values name).getLast?

def has (parsed : Parsed) (name : String) : Bool :=
  !(parsed.values name).isEmpty

end Parsed

/-- Variables of the environment that stand in for options. -/
structure Environment where
  schema : Option String := none
  keyStrategy : Option String := none
  deriving DecidableEq, Repr

/-- What to generate. No names stand for all collections. -/
structure GenerateRequest where
  collections : List String := []
  strategy : KeyStrategy := .number
  mappings : List String := []
  skipped : List String := []
  template : Option String := none
  fixedKey : Bool := false
  output : Option String := none
  deriving DecidableEq, Repr

inductive Command where
  | version
  | list
  | describe (collection : String)
  | generate (request : GenerateRequest)
  deriving DecidableEq, Repr

structure Invocation where
  schema : Option String := none
  json : Bool := false
  verbosity : Nat := 0
  command : Command
  deriving DecidableEq, Repr

def globalSpecs : List OptionSpec :=
  [⟨"schema", "--schema", some 's', true⟩, ⟨"json", "--json", some 'j', false⟩,
    ⟨"verbose", "--verbose", some 'v', false⟩]

def generateSpecs : List OptionSpec :=
  [⟨"strategy", "--pk-type", some 'p', true⟩, ⟨"mapping", "--type-map", some 't', true⟩,
    ⟨"skip", "--skip-type", none, true⟩, ⟨"template", "--import-path", some 'i', true⟩,
    ⟨"fixed", "--fixed-pk", none, false⟩, ⟨"output", "--output", some 'o', true⟩]

/-- The strategy that is asked for: the last one given, else the one of the environment, else numbers.
-/
def strategyFor (parsed : Parsed) (environment : Environment) : Option KeyStrategy :=
  match parsed.last? "strategy", environment.keyStrategy.filter (· != "") with
  | some word, _ => KeyStrategy.ofName? word
  | none, some word => KeyStrategy.ofName? word
  | none, none => some .number

def generateCommand (environment : Environment) (arguments : List String) : Option Command :=
  match parseArguments generateSpecs true arguments with
  | none => none
  | some parsed =>
    (strategyFor parsed environment).map fun strategy =>
      .generate
        { collections := parsed.rest
          strategy := strategy
          mappings := parsed.values "mapping"
          skipped := parsed.values "skip"
          template := parsed.last? "template"
          fixedKey := parsed.has "fixed"
          output := parsed.last? "output" }

def plainArguments (arguments : List String) : Option (List String) :=
  (parseArguments [] true arguments).map (·.rest)

def schemaCommand (arguments : List String) : Option Command :=
  match parseArguments [] false arguments with
  | some ⟨_, "list" :: rest⟩ =>
    match plainArguments rest with
    | some [] => some .list
    | _ => none
  | some ⟨_, "describe" :: rest⟩ =>
    match plainArguments rest with
    | some [collection] => some (.describe collection)
    | _ => none
  | _ => none

def commandOf (environment : Environment) : List String → Option Command
  | "version" :: rest =>
    match plainArguments rest with
    | some [] => some .version
    | _ => none
  | "schema" :: rest => schemaCommand rest
  | "generate" :: rest => generateCommand environment rest
  | _ => none

/-- The invocation that a command line asks for; nothing for one that cannot be understood. -/
def Invocation.parse (environment : Environment) (arguments : List String) : Option Invocation :=
  match parseArguments globalSpecs false arguments with
  | none => none
  | some parsed =>
    (commandOf environment parsed.rest).map fun command =>
      ⟨match parsed.last? "schema" with
        | some path => some path
        | none => environment.schema.filter (· != ""),
        parsed.has "json", (parsed.values "verbose").length, command⟩

end StorageTypes.Cli
