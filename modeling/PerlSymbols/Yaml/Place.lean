import PerlSymbols.Text.Quoted

/-!
# A place in a settings text

Settings texts are read from left to right. A place knows its line and column, because the
structure of a settings text rests on indentation.
-/

namespace PerlSymbols.Yaml

/-- Why a settings text cannot be read. -/
inductive Failure where
  /-- It does not follow the grammar, or its values make no sense together. -/
  | malformed
  /-- A scalar has the form of a number or a date and is none. -/
  | badScalar (message : String)
  /-- A number is too large for what it is needed for. -/
  | overflow (message : String)
  /-- A scalar marked as a truth value is none. -/
  | badTruth (word : String)
  /-- A scalar marked as a number has no text. -/
  | emptyNumber
  /-- A scalar marked as a date is none. -/
  | notADate
  /-- There is no room for its nesting. -/
  | tooDeep
  /-- It has a value that has no form here: octets, a set, a list of pairs, a text that is not
  Unicode, or a list or map inside itself. -/
  | beyond
  deriving DecidableEq

def Failure.message : Failure → String
  | .badScalar message | .overflow message => message
  | .badTruth word => Text.quoted word
  | .malformed | .emptyNumber | .notADate | .tooDeep | .beyond => ""

structure Place where
  rest : List Char
  index : Nat := 0
  line : Nat := 0
  column : Nat := 0

def isBreak (c : Char) : Bool :=
  c == '\n' || c == '\x85' || c.toNat == 0x2028 || c.toNat == 0x2029

/-- The mark that may stand in front of a text. -/
def byteOrderMark : Char := Char.ofNat 0xFEFF

/-- The end of the text or of a line. -/
def endsLine : Option Char → Bool
  | none => true
  | some c => isBreak c

/-- The end of a line, or a space. -/
def endsField : Option Char → Bool
  | some ' ' => true
  | c => endsLine c

/-- The end of a line, a space, or a tab. -/
def endsWord : Option Char → Bool
  | some '\t' => true
  | c => endsField c

namespace Place

def peek (p : Place) : Option Char :=
  p.rest.head?

def peekAt (p : Place) (n : Nat) : Option Char :=
  p.rest[n]?

def forward (p : Place) : Place :=
  match p.rest with
  | [] => p
  | c :: rest =>
    if isBreak c then { rest, index := p.index + 1, line := p.line + 1, column := 0 }
    else
      { rest, index := p.index + 1, line := p.line,
        column := if c == byteOrderMark then p.column else p.column + 1 }

def skip : Nat → Place → Place
  | 0, p => p
  | n + 1, p => skip n p.forward

/-- The characters up to the first that does not belong, and the place after them. -/
def takeWhile (p : Place) (belongs : Char → Bool) : List Char × Place :=
  let run := p.rest.takeWhile belongs
  (run, p.skip run.length)

def skipSpaces (p : Place) : Place :=
  (p.takeWhile (· == ' ')).2

/-- To the end of the line. -/
def skipLine (p : Place) : Place :=
  (p.takeWhile fun c => !isBreak c).2

/-- A line end is read as a line feed, but for the two separators of their own. -/
def takeBreak (p : Place) : Option Char × Place :=
  match p.rest with
  | c :: _ =>
    if !isBreak c then (none, p)
    else if c == '\x85' then (some '\n', p.forward)
    else (some c, p.forward)
  | [] => (none, p)

/-- Three times the same mark at the start of a line separates documents. -/
def atSeparator (p : Place) : Bool :=
  match p.rest with
  | a :: b :: c :: rest =>
    ((a == '-' && b == '-' && c == '-') || (a == '.' && b == '.' && c == '.'))
      && endsWord rest.head?
  | _ => false

/-- Spaces, a comment, and the end of the line. -/
def finishLine (p : Place) : Except Failure Place :=
  let p := p.skipSpaces
  let p := if p.peek == some '#' then p.skipLine else p
  if endsLine p.peek then .ok p.takeBreak.2 else .error .malformed

end Place

end PerlSymbols.Yaml
