/-!
# Classes of characters given by a table

A class is a table of code point ranges, both ends included.
-/

namespace PerlSymbols.Text

/-- Some range of the table holds the character. -/
def inRanges (table : Array (Nat × Nat)) (c : Char) : Bool :=
  table.any fun range => range.1 ≤ c.toNat && c.toNat ≤ range.2

end PerlSymbols.Text
