import PerlSymbols.Position
import PerlSymbols.Text.Lines
import PerlSymbols.Text.Word

/-!
# The symbol under the cursor

Going left from the cursor, package separators and method arrows belong to the symbol, so that
`$obj->meth` and `Foo::Bar::baz` come back whole. Going right, the symbol ends at the first
character that is no word character, so that each part of a package path can be pointed at.

Element access is named by the sigil of the container: `$foo[0]` is `@foo`, `$foo{k}` is `%foo`,
and `$$foo[0]` is `$foo`. A block such as `${foo}` keeps the sigil before it.
-/

namespace PerlSymbols.Cursor

def isSigil (c : Char) : Bool :=
  c == '$' || c == '@' || c == '%'

/-- Characters that may stand in a symbol left of the cursor. -/
def isLeftChar (c : Char) : Bool :=
  Text.isWord c || c == ':' || c == '>' || c == '-'

/-- The part of a symbol left of the cursor and what stands before it, both from right to left. A
`>` belongs to it only as the end of an arrow, or as the first character of the line. -/
def leftRun : List Char → List Char × List Char
  | [] => ([], [])
  | c :: rest =>
    let stops := !isLeftChar c || (c == '>' && !(rest.head?.all (· == '-')))
    if stops then ([], c :: rest)
    else
      let (run, before) := leftRun rest
      (c :: run, before)

/-- The part of a symbol from the cursor on and what stands after it. A sigil may stand at the
cursor itself. -/
def rightRun : List Char → List Char × List Char
  | [] => ([], [])
  | c :: rest =>
    if isSigil c || Text.isWord c then (c :: rest.takeWhile Text.isWord, rest.dropWhile Text.isWord)
    else ([], c :: rest)

/-- The sigil in front of a symbol, if any, from what stands before it, right to left, and what
stands after it. -/
def sigil? (before after : List Char) : Option Char :=
  let next := after.head?
  match before with
  | '$' :: outer =>
    if outer.head? != some '$' && next == some '[' then some '@'
    else if outer.head? != some '$' && next == some '\x7b' then some '%'
    else some '$'
  | '@' :: _ => some '@'
  | '%' :: _ => some '%'
  | '\x7b' :: outer :: _ =>
    if next == some '\x7d' && isSigil outer then some outer else none
  | _ => none

/-- The symbol at a character of a line. A cursor after the end of the line is at its end. -/
def symbolInLine (line : List Char) (character : Nat) : List Char :=
  let (left, before) := leftRun (line.take character).reverse
  let (right, after) := rightRun (line.drop character)
  let symbol := left.reverse ++ right
  if line.isEmpty then []
  else match sigil? before after with
    | some s => s :: symbol
    | none => symbol

/-- The symbol at a position of a text; empty where there is no such line. -/
def symbolAt (position : Position) (text : String) : String :=
  match (Text.lines text.toList)[position.line]? with
  | some line => String.ofList (symbolInLine line position.character)
  | none => ""

end PerlSymbols.Cursor
