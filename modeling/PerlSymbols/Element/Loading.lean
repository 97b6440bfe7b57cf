import PerlSymbols.Element

/-!
# Loading elements

The indexer publishes an element as a map. Each field takes what it is given and makes its own
type of it; fields are read in the order of the structure, and the first that cannot be read
decides the error. A present key counts over its second spelling, also when it holds null.
-/

namespace PerlSymbols

/-- Why a record of the indexer is no element or no document. -/
inductive LoadError where
  /-- A key that must be there is missing. -/
  | missingKey (key : String)
  | notWhole (text : String) (reason : Decimal.NumeralError)
  | infiniteLine
  | notANumberLine
  | unwritable
  /-- A value of a type that cannot be read there. -/
  | wrongType
  /-- The record, or a part of it, is no map. -/
  | notARecord
  deriving DecidableEq

def LoadError.message : LoadError → String
  | .missingKey key => Text.quoted key
  | .notWhole text reason => reason.message 10 text
  | .infiniteLine => "cannot convert float infinity to integer"
  | .notANumberLine => "cannot convert float NaN to integer"
  | .unwritable => Decimal.limitMessage ""
  | .wrongType | .notARecord => ""

/-! ## Fields -/

/-- A line number. Binary numbers lose their fraction, and true counts as one. -/
def Value.toLine : Value → Except LoadError Int
  | .int n => .ok n
  | .bool b => .ok (if b then 1 else 0)
  | .float x =>
    match Decimal.Parts.of x with
    | .nan => .error .notANumberLine
    | .infinite _ => .error .infiniteLine
    | .finite negative mantissa exponent => .ok (Decimal.truncate negative mantissa exponent)
  | .text s =>
    match Decimal.readWhole s with
    | .ok n => .ok n
    | .error reason => .error (.notWhole s reason)
  | .null | .stamp _ | .list _ | .map _ => .error .wrongType

def Value.toText (v : Value) : Except LoadError String :=
  if v.isWritable then .ok v.written else .error .unwritable

/-- A text field: what does not count as given is the empty text. -/
def Value.toLabel (v : Value) : Except LoadError String :=
  if v.isGiven then v.toText else .ok ""

/-- The parameters: a text gives its characters and a map its keys. -/
def Value.toSignature : Value → Except LoadError (Option (List Value))
  | .null => .ok none
  | .list items => .ok (some items)
  | .text s => .ok (some (s.toList.map fun c => .text (String.singleton c)))
  | .map entries => .ok (some (entries.map fun entry => entry.1.toValue))
  | _ => .error .wrongType

namespace Element

/-- The value under the first key that is there, and `fallback` if none is. -/
def pick (entries : List (Key × Value)) (names : List String) (fallback : Value) : Value :=
  (names.findSome? fun name => Entries.get? entries (.text name)).getD fallback

def ofEntries (entries : List (Key × Value)) : Except LoadError Element := do
  let name ← match Entries.get? entries (.text "name") with
    | some v => v.toText
    | none => throw (.missingKey "name")
  let tag := Tag.ofValue (pick entries ["kind", "type"] (.text ""))
  let typeDetail ← (pick entries ["type_detail", "typeDetail"] (.text "")).toLabel
  let package ← (pick entries ["package"] (.text "")).toLabel
  let value ← (pick entries ["value"] (.text "")).toLabel
  let line ← (pick entries ["line"] (.int 0)).toLine
  let lineEnd ← (pick entries ["line_end", "lineEnd"] (.int 0)).toLine
  let uri ← (pick entries ["uri"] (.text "")).toLabel
  let signature ← (pick entries ["signature"] .null).toSignature
  return { name, tag, typeDetail, package, value, line, lineEnd, uri, signature }

/-- Loads an element from the map the indexer publishes. -/
def ofValue : Value → Except LoadError Element
  | .map entries => ofEntries entries
  | _ => .error .notARecord

end Element

end PerlSymbols
