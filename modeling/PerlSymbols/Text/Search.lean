/-!
# Finding one text in another

Texts are lists of characters. The first occurrence is the leftmost one.
-/

namespace PerlSymbols.Text

/-- What stands after `pattern` at the front of a text. -/
def after? : List Char → List Char → Option (List Char)
  | [], cs => some cs
  | _ :: _, [] => none
  | p :: pattern, c :: cs => if p = c then after? pattern cs else none

/-- The text before the first occurrence and the text after it. -/
def splitFirst? (pattern : List Char) : List Char → Option (List Char × List Char)
  | [] => if pattern.isEmpty then some ([], []) else none
  | c :: cs =>
    match after? pattern (c :: cs) with
    | some rest => some ([], rest)
    | none => (splitFirst? pattern cs).map fun (before, rest) => (c :: before, rest)

def occursIn (pattern cs : List Char) : Bool :=
  (splitFirst? pattern cs).isSome

/-- The text after the last occurrence, and the whole text where there is none. -/
def lastPart (pattern : List Char) : List Char → List Char
  | [] => []
  | c :: cs =>
    if occursIn pattern cs then lastPart pattern cs
    else match after? pattern (c :: cs) with
      | some rest => rest
      | none => c :: cs

/-- Every `a` followed by `b` becomes `c` followed by `d`, from left to right. -/
def replacePairs (a b c d : Char) : List Char → List Char
  | x :: y :: rest =>
    if x = a ∧ y = b then c :: d :: replacePairs a b c d rest
    else x :: replacePairs a b c d (y :: rest)
  | cs => cs

/-- The pieces of a text between the separators. -/
def pieces (separator : Char) : List Char → List (List Char)
  | [] => [[]]
  | c :: cs =>
    if c = separator then [] :: pieces separator cs
    else match pieces separator cs with
      | first :: others => (c :: first) :: others
      | [] => [[c]]

end PerlSymbols.Text
