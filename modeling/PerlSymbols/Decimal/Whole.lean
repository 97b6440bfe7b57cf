import PerlSymbols.Decimal.Reading
import PerlSymbols.Text.Blank
import PerlSymbols.Text.Digit
import PerlSymbols.Text.Quoted

/-!
# Whole numbers as text

Digits of every script count. The length of a decimal numeral is bounded, because it takes long to
convert one.
-/

namespace PerlSymbols.Decimal

/-- A longer row of decimal digits is neither read nor written. -/
def digitLimit : Nat := 4300

/-- The number has too many digits to be written. -/
def isOversized (n : Int) : Bool :=
  digitLimit < (Nat.toDigits 10 n.natAbs).length

def limitMessage (detail : String) : String :=
  s!"Exceeds the limit ({digitLimit} digits) for integer string conversion{detail}; "
    ++ "use sys.set_int_max_str_digits() to increase the limit"

/-- Why a text is not read as a whole number. -/
inductive NumeralError where
  | noNumeral
  | tooLong (digits : Nat)
  deriving DecidableEq

/-- The longest quotation of an unreadable text in a message. -/
def quotationLimit : Nat := 200

def NumeralError.message (e : NumeralError) (base : Nat) (text : String) : String :=
  match e with
  | .noNumeral =>
    let quotation := String.ofList ((Text.quoted text).toList.take quotationLimit)
    s!"invalid literal for int() with base {base}: {quotation}"
  | .tooLong digits => limitMessage s!": value has {digits} digits"

/-- The row of digits in front of a text, with single underscores between digits: its value, how
many digits it has, and what follows. `fresh` says that a digit has to come next. -/
def digitRow (fresh : Bool) (acc count : Nat) : List Char → Option (Nat × Nat × List Char)
  | [] => if fresh then none else some (acc, count, [])
  | '_' :: rest => if fresh then none else digitRow true acc count rest
  | c :: rest =>
    match Text.digitValue? c with
    | some d => digitRow false (acc * 10 + d) (count + 1) rest
    | none => if fresh then none else some (acc, count, c :: rest)

/-- A decimal number with blanks around it and at most one sign. Zeros in front count as digits. -/
def readWhole (s : String) : Except NumeralError Int :=
  let (negative, digits) := readSign (Text.trimBoth Text.isNumberBlank s.toList)
  match digitRow true 0 0 digits with
  | none => .error .noNumeral
  | some (n, count, rest) =>
    if digitLimit < count then .error (.tooLong count)
    else if !rest.isEmpty then .error .noNumeral
    else .ok (if negative then -(n : Int) else n)

end PerlSymbols.Decimal
