import PerlSymbols.Decimal.Binary

/-!
# The fewest digits that read back

Every number that rounds to the same binary number lies in an interval around it. On the grid of
decimals with one digit, then two, and so on, the two neighbours of the number are tested; the
first grid with a neighbour inside the interval gives the digits, and of two neighbours the nearer
one is taken.
-/

namespace PerlSymbols.Decimal

/-- The numbers that round to a given one, over one denominator. -/
structure Interval where
  low : Nat
  mid : Nat
  high : Nat
  den : Nat
  /-- The ends belong to it. -/
  closed : Bool

/-- Half way to the neighbours on both sides. Below a power of two the neighbour is nearer. -/
def Interval.of (mantissa : Nat) (exponent : Int) : Interval :=
  let below := if mantissa == hiddenBit && exponent != -1074 then 1 else 2
  let unit := Ratio.ofBinary 1 (exponent - 2)
  { low := (4 * mantissa - below) * unit.num
    mid := 4 * mantissa * unit.num
    high := (4 * mantissa + 2) * unit.num
    den := unit.den
    closed := mantissa % 2 == 0 }

/-- The digits on the grid of step `10 ^ power`, if a neighbour on it lies in the interval. -/
def Interval.digits? (i : Interval) (power : Int) : Option Nat :=
  let scale : Nat → Nat × Nat := fun n =>
    let r := (Ratio.mk n i.den).shift (-power)
    (r.num, r.den)
  let (mid, den) := scale i.mid
  let (low, _) := scale i.low
  let (high, _) := scale i.high
  let below := mid / den
  let above := below + 1
  let rest := mid % den
  let belowIn := if i.closed then low ≤ below * den else low < below * den
  let aboveIn := if i.closed then above * den ≤ high else above * den < high
  match decide belowIn, decide aboveIn with
  | true, true =>
    if 2 * rest < den then some below
    else if den < 2 * rest then some above
    else some (below + below % 2)
  | true, false => some below
  | false, true => some above
  | false, false => none

/-- How many decimal places stand before the point, counted down to `-400`. -/
def leadingPlace (num den : Nat) : Int :=
  if den ≤ num then (Nat.toDigits 10 (num / den)).length
  else
    let rec zeros (fuel : Nat) (num : Nat) (place : Int) : Int :=
      match fuel with
      | 0 => place
      | fuel + 1 => if den ≤ num * 10 then place else zeros fuel (num * 10) (place - 1)
    zeros 400 num 0

/-- Tries grids of more and more digits. Seventeen digits always suffice. -/
def searchDigits (i : Interval) (place : Int) (tries count : Nat) : Nat × Int :=
  match tries with
  | 0 => (0, 0)
  | tries + 1 =>
    match i.digits? (place - count) with
    | some d => (d, place - count)
    | none => searchDigits i place tries (count + 1)

/-- The digits of a positive number and the power of ten of the last one. -/
def shortest (mantissa : Nat) (exponent : Int) : Nat × Int :=
  let i := Interval.of mantissa exponent
  searchDigits i (leadingPlace i.mid i.den) 17 1

end PerlSymbols.Decimal
