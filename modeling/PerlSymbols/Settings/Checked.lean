import PerlSymbols.Value

/-!
# Checked values

Checking settings finds everything that is wrong with them. Each complaint says where it was found
and with which value. Only a home directory that is not known ends the check at once.
-/

namespace PerlSymbols.Settings

/-- What is wrong with a value. -/
inductive Fault where
  | notOneOf (choices : List String)
  | notText
  | notList
  /-- Not the map of a named section. -/
  | notSection (name : String)
  | notWhole
  | unreadableWhole
  | oversizedWhole
  | fractional
  | notFinite
  | notNumber
  | unreadableNumber
  /-- A value of the right type that breaks a rule. -/
  | rule (text : String)
  | unknownKey
  deriving DecidableEq

namespace Fault

/-- The choices, quoted, with a word before the last one. -/
def listed : List String → String
  | [] => ""
  | [a] => s!"'{a}'"
  | [a, b] => s!"'{a}' or '{b}'"
  | a :: rest => s!"'{a}', " ++ listed rest

def code : Fault → String
  | .notOneOf _ => "literal_error"
  | .notText => "string_type"
  | .notList => "list_type"
  | .notSection _ => "model_type"
  | .notWhole => "int_type"
  | .unreadableWhole => "int_parsing"
  | .oversizedWhole => "int_parsing_size"
  | .fractional => "int_from_float"
  | .notFinite => "finite_number"
  | .notNumber => "float_type"
  | .unreadableNumber => "float_parsing"
  | .rule _ => "value_error"
  | .unknownKey => "extra_forbidden"

def message : Fault → String
  | .notOneOf choices => "Input should be " ++ listed choices
  | .notText => "Input should be a valid string"
  | .notList => "Input should be a valid list"
  | .notSection name => "Input should be a valid dictionary or instance of " ++ name
  | .notWhole => "Input should be a valid integer"
  | .unreadableWhole => "Input should be a valid integer, unable to parse string as an integer"
  | .oversizedWhole => "Unable to parse input string as an integer, exceeded maximum size"
  | .fractional => "Input should be a valid integer, got a number with a fractional part"
  | .notFinite => "Input should be a finite number"
  | .notNumber => "Input should be a valid number"
  | .unreadableNumber => "Input should be a valid number, unable to parse string as a number"
  | .rule text => "Value error, " ++ text
  | .unknownKey => "Extra inputs are not permitted"

end Fault

structure Complaint where
  /-- The names and numbers that lead to the value. -/
  path : List String
  fault : Fault
  input : Value

inductive Checked (α : Type) where
  | accepted (a : α)
  | refused (complaints : List Complaint)
  /-- A home directory is not known. -/
  | homeless

namespace Checked

variable {α β γ : Type}

def refuse (fault : Fault) (input : Value) : Checked α :=
  .refused [⟨[], fault, input⟩]

def map (f : α → β) : Checked α → Checked β
  | .accepted a => .accepted (f a)
  | .refused cs => .refused cs
  | .homeless => .homeless

/-- Checks two values and collects the complaints about both. -/
def both (f : α → β → γ) : Checked α → Checked β → Checked γ
  | .accepted a, .accepted b => .accepted (f a b)
  | .refused cs, .refused ds => .refused (cs ++ ds)
  | .homeless, _ | _, .homeless => .homeless
  | .refused cs, .accepted _ | .accepted _, .refused cs => .refused cs

/-- A further rule for a value that is of the right type. -/
def require (input : Value) (x : Checked α) (complaint? : α → Option String) : Checked α :=
  match x with
  | .accepted a =>
    match complaint? a with
    | some text => refuse (.rule text) input
    | none => .accepted a
  | x => x

/-- Complaints about what stands under a name. -/
def under (name : String) : Checked α → Checked α
  | .refused cs => .refused (cs.map fun c => { c with path := name :: c.path })
  | x => x

end Checked

end PerlSymbols.Settings
