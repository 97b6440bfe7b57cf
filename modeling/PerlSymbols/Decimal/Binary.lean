/-!
# Binary floating point numbers, taken apart

A finite number is `± mantissa * 2 ^ exponent` with a mantissa below `2 ^ 53`.
-/

namespace PerlSymbols.Decimal

inductive Parts where
  | nan
  | infinite (negative : Bool)
  | finite (negative : Bool) (mantissa : Nat) (exponent : Int)

/-- The bit in front of the stored ones, which every mantissa of full length has. -/
def hiddenBit : Nat := 4503599627370496

def signBit : Nat := 9223372036854775808

def Parts.of (x : Float) : Parts :=
  let bits := x.toBits.toNat
  let negative := bits / signBit == 1
  let biased : Nat := bits / hiddenBit % 2048
  let fraction := bits % hiddenBit
  if biased == 2047 then if fraction == 0 then .infinite negative else .nan
  else if biased == 0 then .finite negative fraction (-1074)
  else .finite negative (fraction + hiddenBit) ((biased : Int) - 1075)

/-- A non-negative rational number; the denominator is never zero. -/
structure Ratio where
  num : Nat
  den : Nat

/-- `mantissa * 2 ^ exponent`, exactly. -/
def Ratio.ofBinary (mantissa : Nat) (exponent : Int) : Ratio :=
  match exponent with
  | .ofNat e => ⟨mantissa * Nat.pow 2 e, 1⟩
  | .negSucc e => ⟨mantissa, Nat.pow 2 (e + 1)⟩

/-- `r * 10 ^ power`, exactly. -/
def Ratio.shift (r : Ratio) (power : Int) : Ratio :=
  match power with
  | .ofNat e => ⟨r.num * Nat.pow 10 e, r.den⟩
  | .negSucc e => ⟨r.num, r.den * Nat.pow 10 (e + 1)⟩

/-- The nearest whole number; a tie goes to the even one. -/
def Ratio.round (r : Ratio) : Nat :=
  let whole := r.num / r.den
  let rest := r.num % r.den
  if 2 * rest < r.den then whole
  else if r.den < 2 * rest then whole + 1
  else whole + whole % 2

/-- The whole part of a finite number, toward zero. -/
def truncate (negative : Bool) (mantissa : Nat) (exponent : Int) : Int :=
  let r := Ratio.ofBinary mantissa exponent
  let whole : Int := (r.num / r.den : Nat)
  if negative then -whole else whole

/-- The whole number that a binary number is, if it is one. -/
def whole? (x : Float) : Option Int :=
  match Parts.of x with
  | .finite negative mantissa exponent =>
    let r := Ratio.ofBinary mantissa exponent
    if r.num % r.den == 0 then some (truncate negative mantissa exponent) else none
  | _ => none

end PerlSymbols.Decimal
