/-!
# Decimal numbers read from text

The number read is the binary number nearest to `± digits * 10 ^ power`.
-/

namespace PerlSymbols.Decimal

/-- The value of a row of digits, most significant first. -/
def digitsValue (digits : List Char) : Nat :=
  digits.foldl (fun n c => n * 10 + (c.toNat - 48)) 0

/-- Powers far outside the range of binary numbers are settled without computing them. -/
def nearest (negative : Bool) (digits : Nat) (power : Int) : Float :=
  let size : Int := (Nat.toDigits 10 digits).length
  let x : Float :=
    if digits == 0 || size + power < -400 then 0.0
    else if 400 < size + power then 1.0 / 0.0
    else Float.ofScientific digits (decide (power < 0)) power.natAbs
  if negative then -x else x

/-- A whole number as a binary number, and `none` where it is too large for one. -/
def ofInt? (n : Int) : Option Float :=
  let x := nearest (decide (n < 0)) n.natAbs 0
  if x.isInf then none else some x

/-- The part of a number that stands after its sign: digits, a point, an exponent. -/
structure Numeral where
  whole : List Char
  /-- The digits after the point; `none` without a point. -/
  fraction : Option (List Char)
  /-- The exponent; `none` without one. -/
  exponent : Option Int

/-- A sign in front, if there is one. -/
def readSign : List Char → Bool × List Char
  | '-' :: rest => (true, rest)
  | '+' :: rest => (false, rest)
  | cs => (false, cs)

/-- Splits a numeral off the front of a text. A point or an exponent mark that is not followed by
what it needs is left in the rest; a point needs nothing if `openPoint` holds. -/
def readNumeral (openPoint : Bool) (cs : List Char) : Numeral × List Char :=
  let whole := cs.takeWhile Char.isDigit
  let afterWhole := cs.dropWhile Char.isDigit
  let (fraction, afterFraction) :=
    match afterWhole with
    | '.' :: rest =>
      let digits := rest.takeWhile Char.isDigit
      if digits.isEmpty && !(openPoint && !whole.isEmpty) then (none, afterWhole)
      else (some digits, rest.dropWhile Char.isDigit)
    | _ => (none, afterWhole)
  let (exponent, rest) :=
    match afterFraction with
    | mark :: after =>
      if mark == 'e' || mark == 'E' then
        let (negative, after) := readSign after
        let digits := after.takeWhile Char.isDigit
        if digits.isEmpty then (none, afterFraction)
        else
          let n : Int := digitsValue digits
          (some (if negative then -n else n), after.dropWhile Char.isDigit)
      else (none, afterFraction)
    | [] => (none, afterFraction)
  ({ whole, fraction, exponent }, rest)

def Numeral.hasDigits (n : Numeral) : Bool :=
  !n.whole.isEmpty || !(n.fraction.getD []).isEmpty

/-- No point and no exponent. -/
def Numeral.isWhole (n : Numeral) : Bool :=
  n.fraction.isNone && n.exponent.isNone

def Numeral.toFloat (n : Numeral) (negative : Bool) : Float :=
  let fraction := n.fraction.getD []
  nearest negative (digitsValue (n.whole ++ fraction))
    (n.exponent.getD 0 - (fraction.length : Int))

/-- A number, an infinity or the sign of none, in small letters or capitals. -/
def readNumberText (cs : List Char) : Option Float :=
  let (negative, body) := readSign cs
  let word := String.ofList (body.map Char.toLower)
  if word == "inf" || word == "infinity" then some (if negative then -1.0 / 0.0 else 1.0 / 0.0)
  else if word == "nan" then some (0.0 / 0.0)
  else match readNumeral true body with
    | (n, []) => if n.hasDigits then some (n.toFloat negative) else none
    | _ => none

end PerlSymbols.Decimal
