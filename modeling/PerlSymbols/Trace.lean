import PerlSymbols.Log.Level
import PerlSymbols.Value

/-!
# What a request leaves behind

A request ends with a result or an error. On the way it may write log records and ask for other
documents; what it did before an error stays done.
-/

namespace PerlSymbols

/-- A log record as the program writes it. -/
structure Record where
  level : Log.Level
  event : String
  fields : List (String × Value)

/-- One thing done on the way. -/
inductive Step where
  | log (r : Record)
  /-- Another document was asked for. -/
  | load (uri : String)

/-- A computation with its steps, in order, and how it ended. -/
structure Traced (ε : Type) (α : Type) where
  steps : List Step
  outcome : Except ε α

namespace Traced

variable {ε α β : Type}

instance : Monad (Traced ε) where
  pure a := ⟨[], .ok a⟩
  bind x f :=
    match x.outcome with
    | .error e => ⟨x.steps, .error e⟩
    | .ok a =>
      let y := f a
      ⟨x.steps ++ y.steps, y.outcome⟩

instance : MonadExceptOf ε (Traced ε) where
  throw e := ⟨[], .error e⟩
  tryCatch x handle :=
    match x.outcome with
    | .error e =>
      let y := handle e
      ⟨x.steps ++ y.steps, y.outcome⟩
    | .ok _ => x

def log (level : Log.Level) (event : String) (fields : List (String × Value)) :
    Traced ε Unit :=
  ⟨[.log { level, event, fields }], .ok ()⟩

def load (uri : String) : Traced ε Unit :=
  ⟨[.load uri], .ok ()⟩

/-- A computation without steps. -/
def ofExcept (x : Except ε α) : Traced ε α :=
  ⟨[], x⟩

/-- The log records, in order. -/
def records (x : Traced ε α) : List Record :=
  x.steps.filterMap fun
    | .log r => some r
    | .load _ => none

/-- The documents asked for, in order. -/
def loads (x : Traced ε α) : List String :=
  x.steps.filterMap fun
    | .load uri => some uri
    | .log _ => none

end Traced

end PerlSymbols
