/-!
# Blank space around numbers

Two sets are in use. Both have the ASCII blanks and the blanks outside ASCII; only the wider one
has the four ASCII separators 0x1C to 0x1F.
-/

namespace PerlSymbols.Text

/-- Blanks beyond ASCII, line and paragraph separators among them. -/
def isWideBlank (c : Char) : Bool :=
  [0x85, 0xA0, 0x1680, 0x2028, 0x2029, 0x202F, 0x205F, 0x3000].contains c.toNat
    || (0x2000 ≤ c.toNat && c.toNat ≤ 0x200A)

/-- Space, tab, line feed, vertical tab, form feed and carriage return. -/
def isAsciiBlank (c : Char) : Bool :=
  c == ' ' || (9 ≤ c.toNat && c.toNat ≤ 13)

/-- What may stand around the digits of a line number. -/
def isNumberBlank (c : Char) : Bool :=
  isAsciiBlank c || isWideBlank c

/-- Any blank character, the ASCII separators included. -/
def isBlank (c : Char) : Bool :=
  isNumberBlank c || (0x1C ≤ c.toNat && c.toNat ≤ 0x1F)

/-- The list without what `p` accepts at either end. -/
def trimBoth (p : Char → Bool) (cs : List Char) : List Char :=
  ((cs.dropWhile p).reverse.dropWhile p).reverse

end PerlSymbols.Text
