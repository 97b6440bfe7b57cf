import PerlSymbols.Decimal.Reading
import PerlSymbols.Value.Written

/-!
# Problems reported to the caller

A problem has a code, a message and details for programs. Codes in the two thousands are about
the configuration, codes in the three thousands about the index.
-/

namespace PerlSymbols

inductive ProblemCode where
  | configParse
  | configInvalid
  | documentTimeout
  deriving DecidableEq

namespace ProblemCode

def all : List ProblemCode :=
  [.configParse, .configInvalid, .documentTimeout]

def number : ProblemCode → Int
  | .configParse => 2001
  | .configInvalid => 2002
  | .documentTimeout => 3001

def name : ProblemCode → String
  | .configParse => "CONFIG_PARSE_ERROR"
  | .configInvalid => "CONFIG_INVALID_VALUE"
  | .documentTimeout => "INDEX_DOCUMENT_TIMEOUT"

/-- The code with a given number. A binary number counts if it is whole. -/
def ofValue? (v : Value) : Option ProblemCode :=
  all.find? fun code => match v with
    | .int n => n == code.number
    | .float x => x == Float.ofInt code.number
    | _ => false

/-- The message for a number that is no code. -/
def unknownMessage (v : Value) : String :=
  v.quoted ++ " is not a valid ErrorCode"

end ProblemCode

structure Problem where
  code : ProblemCode
  message : String
  /-- The same request may succeed later. -/
  retryable : Bool := false
  details : List (String × Value) := []

/-- Why a number of seconds cannot be written. -/
inductive NumberError where
  /-- A whole number beyond the range of binary numbers. -/
  | tooLarge
  /-- A text, which has no decimals. -/
  | textNumber
  | wrongType
  deriving DecidableEq

def NumberError.message : NumberError → String
  | .tooLarge => "int too large to convert to float"
  | .textNumber => "Unknown format code 'f' for object of type 'str'"
  | .wrongType => ""

/-- A number with one place after the point. -/
def Value.oneDecimal : Value → Except NumberError String
  | .float x => .ok (Decimal.oneDecimal x)
  | .int n =>
    match Decimal.ofInt? n with
    | some x => .ok (Decimal.oneDecimal x)
    | none => .error .tooLarge
  | .bool b => .ok (if b then "1.0" else "0.0")
  | .text _ => .error .textNumber
  | .null | .stamp _ | .list _ | .map _ => .error .wrongType

namespace Problem

/-- The one-line text of a problem. -/
def text (p : Problem) : String :=
  s!"[{p.code.number}] {p.code.name}: {p.message}"

/-- A settings file that cannot be read. -/
def unreadable (path reason : String) : Problem where
  code := .configParse
  message := s!"Failed to parse config at {path}: {reason}"
  details := [("path", .text path), ("reason", .text reason)]

/-- A setting with a value that is not accepted. -/
def invalidValue (field : String) (v : Value) (reason : String) : Problem where
  code := .configInvalid
  message := s!"Invalid value for '{field}': {reason}"
  details := [("field", .text field), ("value", .text v.written), ("reason", .text reason)]

/-- A document that was not published in time. -/
def notIndexed (uri : String) (attempts waited : Value) : Except NumberError Problem := do
  let seconds ← waited.oneDecimal
  return {
    code := .documentTimeout
    message := s!"Found no document for {uri} after {seconds}s"
    retryable := true
    details := [("uri", .text uri), ("attempts", attempts), ("waited_sec", waited)] }

end Problem

end PerlSymbols
