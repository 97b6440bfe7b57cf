import PerlSymbols.Decimal.Shortest

/-!
# Numbers as text

A number is written with the fewest digits that read back: positionally from `0.0001` up to below
ten to the sixteenth, otherwise with an exponent of at least two digits and a sign. A positional
number always has a fractional part.
-/

namespace PerlSymbols.Decimal

/-- How numbers are laid out. -/
structure Layout where
  /-- The least power of ten of a leading digit that is written positionally. -/
  leastPositional : Int
  /-- The greatest such power. -/
  greatestPositional : Int
  exponentWidth : Nat

/-- The layout of every number that is shown. -/
def Layout.shown : Layout := ⟨-4, 15, 2⟩

/-- Without the zeros at the end of the digits. -/
def trimZeros (digits : List Char) : List Char :=
  (digits.reverse.dropWhile (· == '0')).reverse

def padLeft (width : Nat) (digits : List Char) : List Char :=
  List.replicate (width - digits.length) '0' ++ digits

/-- Writes `0.digits * 10 ^ point`; the digits do not start with a zero. -/
def Layout.write (layout : Layout) (digits : List Char) (point : Int) : List Char :=
  let lead := point - 1
  if layout.leastPositional ≤ lead && lead ≤ layout.greatestPositional then
    match point with
    | .ofNat (p + 1) =>
      let whole := digits.take (p + 1)
      let fraction := digits.drop (p + 1)
      whole ++ List.replicate (p + 1 - whole.length) '0' ++ '.' ::
        (if fraction.isEmpty then ['0'] else fraction)
    | _ => '0' :: '.' :: List.replicate (-point).toNat '0' ++ digits
  else
    let first := digits.take 1
    let fraction := digits.drop 1
    first ++ (if fraction.isEmpty then [] else '.' :: fraction) ++ 'e' ::
      (if lead < 0 then '-' else '+') ::
      padLeft layout.exponentWidth (Nat.toDigits 10 lead.natAbs)

def signed (negative : Bool) (body : List Char) : String :=
  String.ofList (if negative then '-' :: body else body)

/-- The text of a number. -/
def written (x : Float) : String :=
  match Parts.of x with
  | .nan => "nan"
  | .infinite negative => if negative then "-inf" else "inf"
  | .finite negative mantissa exponent =>
    if mantissa == 0 then signed negative ['0', '.', '0']
    else
      let (d, power) := shortest mantissa exponent
      let digits := Nat.toDigits 10 d
      signed negative (Layout.shown.write (trimZeros digits) (digits.length + power))

/-- The text of a number rounded to one place after the point, a tie to the even digit. The sign
of a negative number stays when it rounds to zero. -/
def oneDecimal (x : Float) : String :=
  match Parts.of x with
  | .nan => "nan"
  | .infinite negative => if negative then "-inf" else "inf"
  | .finite negative mantissa exponent =>
    let tenths := ((Ratio.ofBinary mantissa exponent).shift 1).round
    signed negative (Nat.toDigits 10 (tenths / 10) ++ ['.', Nat.digitChar (tenths % 10)])

end PerlSymbols.Decimal
