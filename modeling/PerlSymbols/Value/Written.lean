import PerlSymbols.Value
import PerlSymbols.Decimal.Whole
import PerlSymbols.Decimal.Written

/-!
# Values as text

A value that stands alone is shown plainly; inside a list or a map, texts are quoted. A whole number
with too many digits has no text, and nor has a list or a map that holds one: the texts here stand
for those values only that are writable.
-/

namespace PerlSymbols

/-- The text of a value that is neither text, list nor map. -/
def Value.writtenAtom : Value → String
  | .null => "None"
  | .bool b => if b then "True" else "False"
  | .int n => toString n
  | .float x => Decimal.written x
  | .text s => Text.quoted s
  | .stamp t => t.quoted
  | _ => ""

def Key.quoted (k : Key) : String :=
  k.toValue.writtenAtom

mutual

/-- The text of a value inside another one. -/
def Value.quoted : Value → String
  | .list items => "[" ++ ", ".intercalate (quotedItems items) ++ "]"
  | .map entries => "\x7b" ++ ", ".intercalate (quotedEntries entries) ++ "\x7d"
  | v => v.writtenAtom

def quotedItems : List Value → List String
  | [] => []
  | v :: rest => v.quoted :: quotedItems rest

def quotedEntries : List (Key × Value) → List String
  | [] => []
  | (k, v) :: rest => (k.quoted ++ ": " ++ v.quoted) :: quotedEntries rest

end

/-- The text of a value that stands alone. -/
def Value.written : Value → String
  | .text s => s
  | .stamp t => t.written
  | v => v.quoted

/-! ## Values without a text -/

def Key.isWritable : Key → Bool
  | .int n => !Decimal.isOversized n
  | _ => true

mutual

/-- No whole number in the value is too long to be written. -/
def Value.isWritable : Value → Bool
  | .int n => !Decimal.isOversized n
  | .list items => areWritable items
  | .map entries => entriesWritable entries
  | _ => true

def areWritable : List Value → Bool
  | [] => true
  | v :: rest => v.isWritable && areWritable rest

def entriesWritable : List (Key × Value) → Bool
  | [] => true
  | (k, v) :: rest => k.isWritable && v.isWritable && entriesWritable rest

end

end PerlSymbols
