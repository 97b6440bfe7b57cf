import PerlSymbols.Stamp
import PerlSymbols.Text.Search
import PerlSymbols.Value.Json
import PerlSymbols.Yaml.Place

/-!
# The meaning of plain scalars

The form of a plain scalar decides what it means: a truth value, a number, a date, nothing, or
just its text. Whole numbers may be binary, octal (with a leading zero), hexadecimal or in parts of
sixty; underscores count for nothing; a binary number has a point, and its exponent has a sign.
-/

namespace PerlSymbols.Yaml

/-- What a scalar can mean. -/
inductive Meaning where
  | null
  | truth
  | int
  | float
  | stamp
  | text
  /-- The key under which other maps are merged in. -/
  | merge
  /-- The key for a value as such; it is read as text. -/
  | self
  deriving DecidableEq

/-! ## Forms -/

def truthWords : List (String × Bool) :=
  [("yes", true), ("no", false), ("true", true), ("false", false), ("on", true), ("off", false)]

/-- A word in small letters, in capitals, or with one capital in front. -/
def spellings (word : String) : List String :=
  [word, word.toUpper, word.capitalize]

def isTruth (s : String) : Bool :=
  truthWords.any fun (word, _) => (spellings word).contains s

def isNull (s : String) : Bool :=
  s == "" || s == "~" || (spellings "null").contains s

def withoutSign (cs : List Char) : List Char :=
  (Decimal.readSign cs).2

def isDigitOrLine (c : Char) : Bool :=
  c.isDigit || c == '_'

def isOctalOrLine (c : Char) : Bool :=
  ('0' ≤ c && c ≤ '7') || c == '_'

/-- A part of a number in parts of sixty, the first apart. -/
def isSixtieth (cs : List Char) : Bool :=
  match cs with
  | [a] => a.isDigit
  | [a, b] => '0' ≤ a && a ≤ '5' && b.isDigit
  | _ => false

/-- Digits and underscores that start with a digit. -/
def isDigitRow (cs : List Char) : Bool :=
  cs.head?.any Char.isDigit && cs.all isDigitOrLine

/-- A number in parts of sixty, without fraction. -/
def isSexagesimal (cs : List Char) : Bool :=
  match Text.pieces ':' cs with
  | first :: second :: rest => isDigitRow first && (second :: rest).all isSixtieth
  | _ => false

def isInt (cs : List Char) : Bool :=
  match withoutSign cs with
  | '0' :: 'b' :: rest => !rest.isEmpty && rest.all fun c => c == '0' || c == '1' || c == '_'
  | '0' :: 'x' :: rest => !rest.isEmpty && rest.all fun c => (Json.hexValue? c).isSome || c == '_'
  | '0' :: rest => rest.all isOctalOrLine
  | body => isDigitRow body || isSexagesimal body

/-- The part of a binary number after its point. -/
def isFraction (cs : List Char) : Bool :=
  match cs.dropWhile isDigitOrLine with
  | [] => true
  | mark :: sign :: digits =>
    (mark == 'e' || mark == 'E') && (sign == '+' || sign == '-') && !digits.isEmpty
      && digits.all Char.isDigit
  | _ => false

def isFloat (cs : List Char) : Bool :=
  let body := withoutSign cs
  let isInfinity := ["inf", "Inf", "INF"].any fun w => body == '.' :: w.toList
  let isNan := ["nan", "NaN", "NAN"].any fun w => cs == '.' :: w.toList
  let startsWithPoint := match cs with
    | '.' :: c :: rest => c.isDigit && isFraction rest
    | _ => false
  let hasPoint := match Text.splitFirst? ['.'] body with
    | some (whole, fraction) =>
      (isDigitRow whole && isFraction fraction)
        || (isSexagesimal whole && fraction.all isDigitOrLine)
    | none => false
  isInfinity || isNan || startsWithPoint || hasPoint

/-! ## Dates -/

/-- A row of `least` to `most` digits in front of a text. -/
def takeDigits (least most : Nat) (cs : List Char) : Option (Nat × List Char) :=
  let digits := (cs.take most).takeWhile Char.isDigit
  if digits.length < least then none
  else some (Decimal.digitsValue digits, cs.drop digits.length)

def takeChar (c : Char) : List Char → Option (List Char)
  | d :: rest => if c == d then some rest else none
  | [] => none

/-- The distance from universal time at the end of a stamp. -/
def readZone (cs : List Char) : Option (Option Int) :=
  match cs.dropWhile fun c => c == ' ' || c == '\t' with
  | [] => if cs.isEmpty then some none else none
  | ['Z'] => some (some 0)
  | sign :: rest => do
    if sign != '+' && sign != '-' then none
    let (hours, rest) ← takeDigits 1 2 rest
    let (minutes, rest) ← match rest with
      | ':' :: rest => takeDigits 2 2 rest
      | rest => some (0, rest)
    if !rest.isEmpty then none
    let offset : Int := (hours * 3600 + minutes * 60 : Nat)
    return some (if sign == '-' then -offset else offset)

/-- The part of a second, in millionths; further digits are dropped. -/
def readMicro (digits : List Char) : Nat :=
  let kept := digits.take 6
  Decimal.digitsValue kept * Nat.pow 10 (6 - kept.length)

def readTime (cs : List Char) : Option Stamp.Time := do
  let (hour, rest) ← takeDigits 1 2 cs
  let (minute, rest) ← takeDigits 2 2 (← takeChar ':' rest)
  let (second, rest) ← takeDigits 2 2 (← takeChar ':' rest)
  let (fraction, rest) := match rest with
    | '.' :: rest => (rest.takeWhile Char.isDigit, rest.dropWhile Char.isDigit)
    | rest => ([], rest)
  let zone ← readZone rest
  return { hour, minute, second, micro := readMicro fraction, zone }

/-- Without a line end at the very end. -/
def withoutLastBreak (cs : List Char) : List Char :=
  if cs.getLast? == some '\n' then cs.dropLast else cs

/-- A date, or a date with a time. The parts may still be out of range. -/
def readStamp (cs : List Char) : Option Stamp := do
  let (year, rest) ← takeDigits 4 4 cs
  let (month, rest) ← takeDigits 1 2 (← takeChar '-' rest)
  let (day, rest) ← takeDigits 1 2 (← takeChar '-' rest)
  let date : Stamp := { year, month, day, time := none }
  match rest with
  | [] => return date
  | c :: rest =>
    if c == 'T' || c == 't' then return { date with time := some (← readTime rest) }
    else if c == ' ' || c == '\t' then
      let rest := rest.dropWhile fun c => c == ' ' || c == '\t'
      return { date with time := some (← readTime rest) }
    else none

/-- The form of a date; without a time, month and day must have two digits. -/
def isStamp (cs : List Char) : Bool :=
  (readStamp cs).any fun date => date.time.isSome || cs.length == 10

/-- What a scalar means by its form. A line end at the very end does not count, unless there is
nothing else. -/
def meaningOf (s : String) : Meaning :=
  let cs := if s == "\n" then ['\n'] else withoutLastBreak s.toList
  let s := String.ofList cs
  if isTruth s then .truth
  else if isFloat cs then .float
  else if isInt cs then .int
  else if s == "<<" then .merge
  else if isNull s then .null
  else if isStamp cs then .stamp
  else if s == "=" then .self
  else .text

/-! ## Values -/

def withoutLines (s : String) : List Char :=
  s.toList.filter (· != '_')

/-- Digits to a base, at most sixteen. -/
def readBase (base : Nat) (digits : List Char) : Option Nat :=
  if digits.isEmpty then none
  else digits.foldlM (fun n c => do
    let d ← Json.hexValue? (Text.asciiDigit c)
    if d < base then some (n * base + d) else none) 0

/-- The letter that may stand behind a zero in front of the digits to a base. -/
def baseLetter? : Nat → Option Char
  | 2 => some 'b'
  | 8 => some 'o'
  | 16 => some 'x'
  | _ => none

def withoutBase (base : Nat) (cs : List Char) : List Char :=
  match cs with
  | '0' :: letter :: digits => if baseLetter? base == some letter.toLower then digits else cs
  | cs => cs

def notANumeral (base : Nat) (text : List Char) (reason : Decimal.NumeralError) : Failure :=
  .badScalar (reason.message base (String.ofList text))

/-- A number to the base two, eight or sixteen, as long as it may be. Blanks, a second sign and a
second mark of the base may stand in front of the digits. -/
def readWhole (base : Nat) (cs : List Char) : Except Failure Int :=
  let (negative, digits) := Decimal.readSign (Text.trimBoth Text.isNumberBlank cs)
  match readBase base (withoutBase base digits) with
  | some n => .ok (if negative then -(n : Int) else n)
  | none => .error (notANumeral base cs .noNumeral)

def readDecimal (digits : List Char) : Except Failure Int :=
  (Decimal.readWhole (String.ofList digits)).mapError (notANumeral 10 digits)

/-- A whole number. -/
def readInt (s : String) : Except Failure Int := do
  let cs := withoutLines s
  if cs.isEmpty then throw .emptyNumber
  let (negative, body) := Decimal.readSign cs
  if body.isEmpty then throw .emptyNumber
  let n ← match body with
    | '0' :: 'b' :: digits => readWhole 2 digits
    | '0' :: 'x' :: digits => readWhole 16 digits
    | ['0'] => pure 0
    | '0' :: _ => readWhole 8 body
    | _ =>
      if body.contains ':' then do
        let parts ← (Text.pieces ':' body).mapM readDecimal
        pure (parts.foldl (fun n part => n * 60 + part) 0)
      else readDecimal body
  return if negative then -n else n

def notAFloat (text : List Char) : Failure :=
  .badScalar s!"could not convert string to float: {Text.quoted (String.ofList text)}"

/-- A numeral with what may stand around it, or the name of a number that is not finite. -/
def readPart (cs : List Char) : Except Failure Float :=
  let ascii := (Text.trimBoth Text.isNumberBlank cs).map Text.asciiDigit
  match Decimal.readNumberText ascii with
  | some x => .ok x
  | none => .error (notAFloat cs)

/-- Adds parts of sixty, the last one first. -/
def addParts (sum : Float) (unit : Nat) : List Float → Except Failure Float
  | [] => .ok sum
  | part :: rest =>
    match Decimal.ofInt? unit with
    | some u => addParts (sum + part * u) (unit * 60) rest
    | none => .error (.overflow "int too large to convert to float")

/-- A binary number. -/
def readFloat (s : String) : Except Failure Float := do
  let cs := (withoutLines s).map Char.toLower
  if cs.isEmpty then throw .emptyNumber
  let (negative, body) := Decimal.readSign cs
  let x ←
    if body == ".inf".toList then pure (1.0 / 0.0)
    else if body == ".nan".toList then pure (0.0 / 0.0)
    else if body.contains ':' then do
      let parts ← (Text.pieces ':' body).mapM readPart
      addParts 0.0 1 parts.reverse
    else readPart body
  return if negative then -x else x

def readTruth (s : String) : Except Failure Bool :=
  match truthWords.lookup s.toLower with
  | some b => .ok b
  | none => .error (.badTruth s.toLower)

/-- A date that exists. -/
def readDate (s : String) : Except Failure Stamp :=
  match readStamp (withoutLastBreak s.toList) with
  | some t =>
    match t.complaint? with
    | some message => .error (.badScalar message)
    | none => .ok t
  | none => .error .notADate

end PerlSymbols.Yaml
