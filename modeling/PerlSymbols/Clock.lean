import PerlSymbols.Decimal.Binary
import PerlSymbols.Decimal.Reading
import PerlSymbols.Value

/-!
# Time

Waiting needs few operations on time, so it is written for every type that has them. The program
itself counts seconds by whole or by binary numbers; a sum with a binary number is binary.
-/

namespace PerlSymbols

/-- Durations and instants, counted from the start of the clock. -/
class Clock (τ : Type) where
  start : τ
  /-- No time at all. -/
  nothing : τ
  add : τ → τ → τ
  /-- Not later, or not longer. -/
  le : τ → τ → Bool
  /-- So many times a duration; `none` where the result is out of range. -/
  times? : τ → Int → Option τ
  toValue : τ → Value

/-- A whole number may lie beyond the range of binary numbers. -/
def Value.isInRange : Value → Bool
  | .int n => (Decimal.ofInt? n).isSome
  | _ => true

/-- A clock can let a duration pass that is in range; one that is not positive needs no clock. -/
def Clock.canPass {τ : Type} [Clock τ] (duration : τ) : Bool :=
  Clock.le duration Clock.nothing || (Clock.toValue duration).isInRange

/-- A number of seconds. -/
inductive Seconds where
  | whole (n : Int)
  | real (x : Float)

namespace Seconds

def toFloat : Seconds → Float
  | .whole n => Decimal.nearest (decide (n < 0)) n.natAbs 0
  | .real x => x

def add (a b : Seconds) : Seconds :=
  .real (a.toFloat + b.toFloat)

def le : Seconds → Seconds → Bool
  | .whole m, .whole n => m ≤ n
  | a, b => a.toFloat ≤ b.toFloat

def times? (a : Seconds) (n : Int) : Option Seconds :=
  match a with
  | .whole m => some (.whole (m * n))
  | .real x => (Decimal.ofInt? n).map fun y => .real (x * y)

def toValue : Seconds → Value
  | .whole n => .int n
  | .real x => .float x

instance : Clock Seconds where
  start := .real 0.0
  nothing := .whole 0
  add := add
  le := le
  times? := times?
  toValue := toValue

/-- Whole milliseconds, a half to the even one. -/
def milliseconds (s : Seconds) : Int :=
  match Decimal.Parts.of (s.toFloat * 1000.0) with
  | .finite negative mantissa exponent =>
    let n : Int := (Decimal.Ratio.ofBinary mantissa exponent).round
    if negative then -n else n
  | _ => 0

end Seconds

end PerlSymbols
