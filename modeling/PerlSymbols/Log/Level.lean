/-!
# Log levels
-/

namespace PerlSymbols.Log

inductive Level where
  | debug
  | info
  | warning
  | error
  | critical
  deriving DecidableEq

namespace Level

def rank : Level → Nat
  | .debug => 10
  | .info => 20
  | .warning => 30
  | .error => 40
  | .critical => 50

/-- The name in settings. -/
def name : Level → String
  | .debug => "DEBUG"
  | .info => "INFO"
  | .warning => "WARNING"
  | .error => "ERROR"
  | .critical => "CRITICAL"

/-- The name in records. -/
def word : Level → String
  | .debug => "debug"
  | .info => "info"
  | .warning => "warning"
  | .error => "error"
  | .critical => "critical"

def all : List Level :=
  [.debug, .info, .warning, .error, .critical]

def ofName? (s : String) : Option Level :=
  all.find? fun level => level.name == s

def ofWord? (s : String) : Option Level :=
  all.find? fun level => level.word == s

/-- At or above a threshold. -/
def reaches (level threshold : Level) : Bool :=
  threshold.rank ≤ level.rank

end Level

end PerlSymbols.Log
