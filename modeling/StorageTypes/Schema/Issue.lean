import StorageTypes.Json.Value

namespace StorageTypes

/-- What is wrong at one place of a value. -/
inductive Problem where
  | missing
  | notText
  | tooShort
  | notFlag
  | unreadableFlag
  | notList
  | notPair
  | notObject
  | tooLong
  | wrongTag
  | notChoice
  | notFunction
  | notModel
  | notTagged
  | tagAbsent
  | tagUnknown
  deriving DecidableEq, Repr

def Problem.code : Problem → String
  | .missing => "missing"
  | .notText => "string_type"
  | .tooShort => "string_too_short"
  | .notFlag => "bool_type"
  | .unreadableFlag => "bool_parsing"
  | .notList => "list_type"
  | .notPair => "tuple_type"
  | .notObject => "dict_type"
  | .tooLong => "too_long"
  | .wrongTag => "literal_error"
  | .notChoice => "enum"
  | .notFunction => "callable_type"
  | .notModel => "model_type"
  | .notTagged => "model_attributes_type"
  | .tagAbsent => "union_tag_not_found"
  | .tagUnknown => "union_tag_invalid"

/-- One step of the way to a place: into an entry, or into an item or an entry under a number. -/
inductive Step where
  | entry (name : String)
  | item (index : Int)
  deriving DecidableEq, Repr

/-- A problem with the way to its place. -/
structure Issue where
  problem : Problem
  path : List Step := []
  deriving DecidableEq, Repr

/-- The outcome of a check: a result, or all issues in the order of the model. -/
abbrev Checked (α : Type) := Except (List Issue) α

namespace Checked

variable {α β : Type}

def fail (problem : Problem) : Checked α :=
  .error [⟨problem, []⟩]

def within (step : Step) : Checked α → Checked α
  | .ok a => .ok a
  | .error issues => .error (issues.map fun issue => { issue with path := step :: issue.path })

def apply (f : Checked (α → β)) (x : Checked α) : Checked β :=
  match f, x with
  | .ok f, .ok a => .ok (f a)
  | .ok _, .error issues => .error issues
  | .error issues, .ok _ => .error issues
  | .error issues, .error more => .error (issues ++ more)

def all : List (Checked α) → Checked (List α)
  | [] => .ok []
  | x :: rest => apply (apply (.ok List.cons) x) (all rest)

end Checked

namespace Check

open Json (Value)

def text : Value → Checked String
  | .str content => .ok content
  | _ => .fail .notText

def nonemptyText : Value → Checked String
  | .str content => if content = "" then .fail .tooShort else .ok content
  | _ => .fail .notText

def onWords : List String := ["1", "on", "t", "true", "y", "yes"]

def offWords : List String := ["0", "off", "f", "false", "n", "no"]

/-- A flag: a boolean, a number that is zero or one, or one of the words for it in any letter case. Whole
numbers beyond 64 bits and all other doubles, be they whole or not, are not taken for flags at all. -/
def flag : Value → Checked Bool
  | .bool b => .ok b
  | .int n =>
    if n = 0 then .ok false
    else if n = 1 then .ok true
    else if -9223372036854775808 ≤ n ∧ n ≤ 9223372036854775807 then .fail .unreadableFlag
    else .fail .notFlag
  | .double word =>
    if Decimal.isZero word then .ok false
    else if Decimal.isOne word then .ok true
    else .fail .notFlag
  | .str content =>
    let word := content.toLower
    if onWords.contains word then .ok true
    else if offWords.contains word then .ok false
    else .fail .unreadableFlag
  | _ => .fail .notFlag

def itemsFrom {α : Type} (check : Value → Checked α) : Nat → List Value → List (Checked α)
  | _, [] => []
  | index, value :: rest => (check value).within (.item index) :: itemsFrom check (index + 1) rest

def list {α : Type} (check : Value → Checked α) : Value → Checked (List α)
  | .arr items => .all (itemsFrom check 0 items)
  | _ => .fail .notList

def entries {α : Type} (check : Value → Checked α) : Value → Checked (Dictionary α)
  | .obj entries =>
    .all (entries.map fun entry =>
      ((check entry.2).within (.entry entry.1)).map fun a => (entry.1, a))
  | _ => .fail .notObject

def nullable {α : Type} (check : Value → Checked α) : Value → Checked (Option α)
  | .null => .ok none
  | value => (check value).map some

/-- A pair of texts. A third item is reported before any item is looked at. -/
def pair : Value → Checked (String × String)
  | .arr [] =>
    .error [⟨.missing, [.item 0]⟩, ⟨.missing, [.item 1]⟩]
  | .arr [first] =>
    Checked.apply (Checked.apply (.ok Prod.mk) ((text first).within (.item 0)))
      (.error [⟨.missing, [.item 1]⟩])
  | .arr [first, second] =>
    Checked.apply (Checked.apply (.ok Prod.mk) ((text first).within (.item 0)))
      ((text second).within (.item 1))
  | .arr _ => .fail .tooLong
  | _ => .fail .notPair

def required {α : Type} (name : String) (check : Value → Checked α) (object : Value) : Checked α :=
  match object.member? name with
  | none => .error [⟨.missing, [.entry name]⟩]
  | some value => (check value).within (.entry name)

def optional {α : Type} (name : String) (default : α) (check : Value → Checked α)
    (object : Value) : Checked α :=
  match object.member? name with
  | none => .ok default
  | some value => (check value).within (.entry name)

def model {α : Type} (check : Value → Checked α) : Value → Checked α
  | .obj entries => check (.obj entries)
  | _ => .fail .notModel

end Check

end StorageTypes
