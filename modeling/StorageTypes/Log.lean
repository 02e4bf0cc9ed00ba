
namespace StorageTypes

inductive Level where
  | debug
  | info
  | warning
  deriving DecidableEq, Repr

def Level.name : Level → String
  | .debug => "DEBUG"
  | .info => "INFO"
  | .warning => "WARNING"

def Level.rank : Level → Nat
  | .debug => 0
  | .info => 1
  | .warning => 2

structure LogEntry where
  level : Level
  message : String
  deriving DecidableEq, Repr

def warningsOf (log : List LogEntry) : List String :=
  (log.filter (·.level == .warning)).map (·.message)

theorem warningsOf_append (a b : List LogEntry) :
    warningsOf (a ++ b) = warningsOf a ++ warningsOf b := by
  simp [warningsOf]

/-- A result or a failure, with the log that led to it. -/
structure Logged (ε α : Type) where
  log : List LogEntry
  result : Except ε α

namespace Logged

variable {ε ε' α β : Type}

def pure (a : α) : Logged ε α :=
  ⟨[], .ok a⟩

def ofExcept (result : Except ε α) : Logged ε α :=
  ⟨[], result⟩

def note (level : Level) (message : String) : Logged ε Unit :=
  ⟨[⟨level, message⟩], .ok ()⟩

def bind (x : Logged ε α) (f : α → Logged ε β) : Logged ε β :=
  match x.result with
  | .error e => ⟨x.log, .error e⟩
  | .ok a => ⟨x.log ++ (f a).log, (f a).result⟩

def map (f : α → β) (x : Logged ε α) : Logged ε β :=
  ⟨x.log, x.result.map f⟩

def mapError (f : ε → ε') (x : Logged ε α) : Logged ε' α :=
  ⟨x.log, x.result.mapError f⟩

end Logged

end StorageTypes
