import PerlSymbols.Decimal.Binary
import PerlSymbols.Decimal.Reading
import PerlSymbols.Settings.Checked
import PerlSymbols.Text.Blank
import PerlSymbols.Text.Search

/-!
# Numbers in settings

A number may be given as a number, as a truth value, or as a text. A whole number may have the form
of a binary number without fraction. Underscores may stand between digits.
-/

namespace PerlSymbols.Settings

/-! ## Whole numbers -/

/-- The longest text that is read as a whole number. -/
def wholeTextLimit : Nat := 4300

/-- Digits with single underscores between them. -/
def readDigits (fresh : Bool) (acc : Nat) : List Char → Option Nat
  | [] => if fresh then none else some acc
  | c :: rest =>
    if c == '_' then if fresh then none else readDigits true acc rest
    else if c.isDigit then readDigits false (acc * 10 + (c.toNat - 48)) rest
    else none

/-- Without zeros in front, and without underscores among them. -/
def skipZeros : List Char → List Char
  | '0' :: rest =>
    match rest.dropWhile fun c => c == '0' || c == '_' with
    | c :: more => if c.isDigit then c :: more else '0' :: rest.dropWhile (· == '0')
    | [] => if rest.getLast? == some '_' then ['_'] else ['0']
  | cs => cs

/-- Without a point and at least one zero at the end. -/
def dropZeroFraction (cs : List Char) : List Char :=
  match Text.splitFirst? ['.'] cs with
  | some (whole, fraction) =>
    if !fraction.isEmpty && fraction.all (· == '0') then whole else cs
  | none => cs

def readWholeText (s : String) : Option Int :=
  let (negative, digits) := Decimal.readSign (Text.trimBoth Text.isNumberBlank s.toList)
  (readDigits true 0 (dropZeroFraction (skipZeros digits))).map
    fun (n : Nat) => if negative then -(n : Int) else n

/-- Binary numbers from here on, in size, are too large to be taken for whole numbers. -/
def wholeLimit : Float := 9223372036854775808.0

def checkWhole (v : Value) : Checked Int :=
  match v with
  | .int n => .accepted n
  | .bool b => .accepted (if b then 1 else 0)
  | .float x =>
    if x.isNaN || x.isInf then .refuse .notFinite v
    else match Decimal.whole? x with
      | some n => if x.abs < wholeLimit then .accepted n else .refuse .oversizedWhole v
      | none => .refuse .fractional v
  | .text s =>
    if wholeTextLimit < s.length then .refuse .oversizedWhole v
    else match readWholeText s with
      | some n => .accepted n
      | none => .refuse .unreadableWhole v
  | .null | .stamp _ | .list _ | .map _ => .refuse .notWhole v

/-! ## Binary numbers -/

/-- Without its underscores, which must each stand between other characters. -/
def dropUnderscores (cs : List Char) : Option (List Char) :=
  if cs.head? == some '_' || cs.getLast? == some '_' || Text.occursIn ['_', '_'] cs then none
  else some (cs.filter (· != '_'))

/-- Blanks around the number are dropped only where there is no underscore. -/
def readFloatText (s : String) : Option Float :=
  (Decimal.readNumberText (Text.trimBoth Text.isNumberBlank s.toList)).or
    ((dropUnderscores s.toList).bind Decimal.readNumberText)

def checkNumber (v : Value) : Checked Float :=
  match v with
  | .float x => .accepted x
  | .int n =>
    match Decimal.ofInt? n with
    | some x => .accepted x
    | none => .refuse .notNumber v
  | .bool b => .accepted (if b then 1.0 else 0.0)
  | .text s =>
    match readFloatText s with
    | some x => .accepted x
    | none => .refuse .unreadableNumber v
  | .null | .stamp _ | .list _ | .map _ => .refuse .notNumber v

end PerlSymbols.Settings
