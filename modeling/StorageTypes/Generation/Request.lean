import StorageTypes.Generation.Batch

namespace StorageTypes

open Json (Value)

/-- Why a value is no list of pairs. -/
inductive PairFault where
  | notIterable (typeName : String)
  | notSequence (index : Nat) (typeName : String)
  | wrongLength (index length : Nat)
  | badKey (typeName : String)
  deriving DecidableEq, Repr

def PairFault.message : PairFault → String
  | .notIterable typeName => (Misfit.notIterable typeName).message
  | .notSequence index _ =>
    "cannot convert dictionary update sequence element #" ++ toString index ++ " to a sequence"
  | .wrongLength index length =>
    "dictionary update sequence element #" ++ toString index ++ " has length " ++ toString length
      ++ "; 2 is required"
  | .badKey typeName => "unhashable type: '" ++ typeName ++ "'"

namespace Request

/-- What a key counts as: flags and doubles without a fraction count as whole numbers. -/
def countedKey : Value → Value
  | .bool b => .int (if b then 1 else 0)
  | .double word => ((Decimal.whole? word).map .int).getD (.double word)
  | key => key

def sameKey (first second : Value) : Bool :=
  (countedKey first).literal == (countedKey second).literal

def putPair (key value : Value) : List (Value × Value) → List (Value × Value)
  | [] => [(key, value)]
  | (other, old) :: rest =>
    if sameKey other key then (other, value) :: rest
    else (other, old) :: putPair key value rest

def usableKey : Value → Except PairFault Unit
  | .arr _ => .error (.badKey "list")
  | .obj _ => .error (.badKey "dict")
  | _ => .ok ()

def pairsFrom (done : List (Value × Value)) : Nat → List Value →
    Except PairFault (List (Value × Value))
  | _, [] => .ok done
  | index, item :: rest =>
    match itemsOf item with
    | .error _ => .error (.notSequence index item.typeName)
    | .ok [key, value] =>
      match usableKey key with
      | .error fault => .error fault
      | .ok _ => pairsFrom (putPair key value done) (index + 1) rest
    | .ok parts => .error (.wrongLength index parts.length)

def pairsOf : Value → Except PairFault (List (Value × Value))
  | .obj entries => .ok (entries.map fun entry => (.str entry.1, entry.2))
  | value =>
    match itemsOf value with
    | .error _ => .error (.notIterable value.typeName)
    | .ok items => pairsFrom [] 0 items

def stepLimit : Int := 9223372036854775807

/-- The step to an entry under a key that need not be a text. Whole numbers of 64 bits stand for
themselves, all other keys for their text. -/
def stepTo : Value → Step
  | .str name => .entry name
  | .bool b => .item (if b then 1 else 0)
  | .int n =>
    if -stepLimit - 1 ≤ n && n ≤ stepLimit then .item n else .entry (Value.int n).literal
  | other => .entry other.literal

def checkPairs (pairs : List (Value × Value)) : Checked (Dictionary String) :=
  .all (pairs.map fun (key, value) =>
    let name := ((Check.text key).within (.entry "[key]")).within (stepTo key)
    let type := (Check.text value).within (stepTo key)
    Checked.apply (Checked.apply (.ok Prod.mk) name) type)

def argumentNames : List String :=
  ["collections", "auto_pk_type", "field_type_map", "generate_import", "skip_types", "optional_pk"]

end Request

/-- Why a request is refused. -/
inductive RequestError where
  | template (fault : ImportPath.NoPlaceholder)
  | definition (error : DefinitionError)
  | arguments
  | overrides (fault : PairFault)
  | model (issues : List Issue)
  | generation (error : GenerationError)

namespace Request

def optionsOf (resolver : Option ImportPath.Resolver) (arguments : Value) :
    Except RequestError Options :=
  match arguments with
  | .obj entries =>
    if (Dictionary.names entries).all argumentNames.contains
        && Dictionary.holds "collections" entries then
      match pairsOf (((arguments.member? "field_type_map").getD .null).orElse (.obj [])) with
      | .error fault => .error (.overrides fault)
      | .ok pairs =>
        let skipped := ((arguments.member? "skip_types").getD .null).orElse (.arr [])
        let object := Value.obj (Dictionary.put "skip_types" skipped entries)
        (Options.assemble resolver ((checkPairs pairs).within (.entry "field_type_map"))
          object).mapError .model
    else .error .arguments
  | _ => .error .arguments

def sourceFrom (registry : Registry) (resolver : Option ImportPath.Resolver) (arguments : Value) :
    Except RequestError String :=
  match optionsOf resolver arguments with
  | .error e => .error e
  | .ok options =>
    match (Batch.generate registry options).result with
    | .error e => .error (.generation e)
    | .ok batch => .ok batch.source

/-- The source text for a schema and named arguments. A template among the arguments is read first,
then the schema. -/
def source [ImportPath.Host] (schema arguments : Value) : Except RequestError String :=
  match splitTemplate arguments with
  | .error fault => .error (.template fault)
  | .ok (resolver, plain) =>
    match (Registry.ofDefinitions schema).result with
    | .error e => .error (.definition e)
    | .ok registry => sourceFrom registry resolver plain

end Request

end StorageTypes
