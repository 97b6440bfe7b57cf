import PerlSymbols.Value.Written

/-!
# Positions and locations

A position counts lines and characters from zero; both are bounded by the greatest signed 32-bit
number. Locations cover a whole line and not the span of a name.
-/

namespace PerlSymbols

structure Position where
  line : Nat
  character : Nat
  deriving DecidableEq

inductive Coordinate where
  | line
  | character
  deriving DecidableEq

/-- A coordinate out of range, with the text of its value. -/
structure PositionError where
  coordinate : Coordinate
  shown : String
  deriving DecidableEq

def Coordinate.name : Coordinate → String
  | .line => "line"
  | .character => "character"

/-- The greatest line and the greatest character. -/
def Position.limit : Nat := 2147483647

def PositionError.message (e : PositionError) : String :=
  s!"Position.{e.coordinate.name} should be in range [0:{Position.limit}], but was {e.shown}."

namespace Position

/-- A coordinate is a whole number in range; a truth value counts as one. -/
def coordinate (which : Coordinate) (v : Value) : Except PositionError Nat :=
  let whole : Option Int := match v with
    | .int n => some n
    | .bool b => some (if b then 1 else 0)
    | _ => none
  match whole with
  | some (.ofNat n) => if n ≤ limit then .ok n else .error ⟨which, v.written⟩
  | _ => .error ⟨which, v.written⟩

/-- The line is checked before the character. -/
def ofValues (line character : Value) : Except PositionError Position := do
  let line ← coordinate .line line
  let character ← coordinate .character character
  return { line, character }

end Position

structure Location where
  uri : String
  start : Position
  stop : Position
  deriving DecidableEq

/-- Where every location ends on its line. -/
def Location.lastCharacter : Nat := 100

/-- The location that stands for a whole line. -/
def Location.ofLine (uri : String) (line : Value) : Except PositionError Location := do
  let start ← Position.ofValues line (.int 0)
  let stop ← Position.ofValues line (.int Location.lastCharacter)
  return { uri, start, stop }

end PerlSymbols
