import PerlSymbols.Value.Json
import PerlSymbols.Yaml.Place

/-!
# Scalars in a settings text

A scalar is written plainly, between quotes, or as a block of lines. Where a scalar goes over
several lines, a single line end between two words is read as a space, and empty lines are kept.
-/

namespace PerlSymbols.Yaml

/-! ## Quoted scalars -/

/-- Escapes of one character. -/
def escapes : List (Char × Nat) :=
  [('0', 0), ('a', 7), ('b', 8), ('t', 9), ('\t', 9), ('n', 10), ('v', 11), ('f', 12), ('r', 13),
    ('e', 27), (' ', 32), ('"', 34), ('\\', 92), ('/', 47), ('N', 0x85), ('_', 0xA0),
    ('L', 0x2028), ('P', 0x2029)]

/-- How many hexadecimal digits follow an escape by code point. -/
def escapeWidth? : Char → Option Nat
  | 'x' => some 2
  | 'u' => some 4
  | 'U' => some 8
  | _ => none

/-- A character given by so many hexadecimal digits. -/
def takeCode (width : Nat) (p : Place) : Except Failure (Char × Place) :=
  match (p.rest.take width).mapM Json.hexValue? with
  | some digits =>
    let n := digits.foldl (fun n d => n * 16 + d) 0
    if digits.length < width then .error .malformed
    else if 0x80000000 ≤ n then .error (.overflow "Python int too large to convert to C int")
    else if 0x110000 ≤ n then .error (.badScalar "chr() arg not in range(0x110000)")
    else if 0xD800 ≤ n && n < 0xE000 then .error .beyond
    else .ok (Char.ofNat n, p.skip width)
  | none => .error .malformed

/-- Empty lines inside quotes. A separator of documents must not stand there. -/
def takeQuotedBreaks : Nat → Place → List Char → Except Failure (List Char × Place)
  | 0, _, _ => .error .malformed
  | fuel + 1, p, acc =>
    if p.atSeparator then .error .malformed
    else
      let p := (p.takeWhile fun c => c == ' ' || c == '\t').2
      match p.takeBreak with
      | (some b, p) => takeQuotedBreaks fuel p (acc ++ [b])
      | (none, p) => .ok (acc, p)

/-- What a line end stands for, together with the empty lines after it. -/
def foldBreaks (first : Char) (others : List Char) : List Char :=
  if first != '\n' then first :: others
  else if others.isEmpty then [' ']
  else others

/-- Spaces inside quotes, perhaps with line ends. -/
def takeQuotedSpaces (p : Place) : Except Failure (List Char × Place) := do
  let (spaces, p) := p.takeWhile fun c => c == ' ' || c == '\t'
  match p.peek with
  | none => throw .malformed
  | some _ =>
    match p.takeBreak with
    | (some b, p) =>
      let (others, p) ← takeQuotedBreaks (p.rest.length + 1) p []
      return (foldBreaks b others, p)
    | (none, p) => return (spaces, p)

/-- An escape after its backslash. -/
def takeEscape (p : Place) : Except Failure (List Char × Place) :=
  match p.rest with
  | [] => .error .malformed
  | c :: _ =>
    match escapes.lookup c, escapeWidth? c with
    | some n, _ => .ok ([Char.ofNat n], p.forward)
    | none, some width => do
      let (c, p) ← takeCode width p.forward
      return ([c], p)
    | none, none =>
      if isBreak c then takeQuotedBreaks (p.rest.length + 1) p.takeBreak.2 []
      else .error .malformed

/-- The inside of a quoted scalar up to the closing quote. -/
def takeQuoted (double : Bool) : Nat → Place → List Char → Except Failure (List Char × Place)
  | 0, _, _ => .error .malformed
  | fuel + 1, p, acc =>
    match p.rest with
    | [] => .error .malformed
    | c :: rest =>
      if c == ' ' || c == '\t' || isBreak c then do
        let (spaces, p) ← takeQuotedSpaces p
        takeQuoted double fuel p (acc ++ spaces)
      else if double then
        if c == '"' then .ok (acc, p.forward)
        else if c == '\\' then do
          let (cs, p) ← takeEscape p.forward
          takeQuoted double fuel p (acc ++ cs)
        else takeQuoted double fuel p.forward (acc ++ [c])
      else if c == '\x27' then
        if rest.head? == some '\x27' then takeQuoted double fuel (p.skip 2) (acc ++ [c])
        else .ok (acc, p.forward)
      else takeQuoted double fuel p.forward (acc ++ [c])

/-! ## Plain scalars -/

/-- Does a plain scalar end before the first of these characters? -/
def plainEnds (inFlow : Bool) (cs : List Char) : Bool :=
  match cs with
  | [] => true
  | c :: rest =>
    endsWord (some c)
      || (c == ':' && (endsWord rest.head?
        || (inFlow && rest.head?.any fun d => [',', '[', ']', '\x7b', '\x7d'].contains d)))
      || (inFlow && [',', '?', '[', ']', '\x7b', '\x7d'].contains c)

/-- The length of the next word of a plain scalar. -/
def plainLength (inFlow : Bool) : List Char → Nat
  | [] => 0
  | c :: rest => if plainEnds inFlow (c :: rest) then 0 else plainLength inFlow rest + 1

/-- Empty lines and indentation inside a plain scalar; `none` at a separator of documents. -/
def takePlainBreaks : Nat → Place → List Char → Option (List Char) × Place
  | 0, p, acc => (some acc, p)
  | fuel + 1, p, acc =>
    if p.peek == some ' ' then takePlainBreaks fuel p.forward acc
    else match p.takeBreak with
      | (some b, p) =>
        if p.atSeparator then (none, p) else takePlainBreaks fuel p (acc ++ [b])
      | (none, p) => (some acc, p)

/-- The spaces after a word of a plain scalar, and whether a line ended in them. -/
def takePlainSpaces (p : Place) : List Char × Bool × Place :=
  let (spaces, p) := p.takeWhile (· == ' ')
  match p.takeBreak with
  | (none, p) => (spaces, false, p)
  | (some b, p) =>
    if p.atSeparator then ([], true, p)
    else match takePlainBreaks (p.rest.length + 1) p [] with
      | (some others, p) => (foldBreaks b others, true, p)
      | (none, p) => ([], true, p)

/-- What was read of a plain scalar. -/
structure Plain where
  text : List Char
  place : Place
  /-- A line ended after the last word. -/
  lineEnded : Bool

/-- A plain scalar that must be indented by at least `indent`. -/
def takePlain (inFlow : Bool) (indent : Int) : Nat → Plain → List Char → Plain
  | 0, done, _ => done
  | fuel + 1, done, spaces =>
    let p := done.place
    let length := plainLength inFlow p.rest
    if p.peek == some '#' || length == 0 then done
    else
      let text := done.text ++ spaces ++ p.rest.take length
      let (spaces, lineEnded, p) := takePlainSpaces (p.skip length)
      let done : Plain := { text, place := p, lineEnded }
      if spaces.isEmpty || p.peek == some '#' || (!inFlow && (p.column : Int) < indent) then done
      else takePlain inFlow indent fuel done spaces

/-! ## Block scalars -/

/-- What to do with the line ends after a block. -/
inductive Chomp where
  | clip
  | strip
  | keep
  deriving DecidableEq

def chompOf (c : Char) : Chomp :=
  if c == '+' then .keep else .strip

/-- The header of a block: how it ends, and its indentation if it is given. -/
def takeHeader (p : Place) : Except Failure (Chomp × Option Nat × Place) := do
  let isSign := fun (c : Char) => c == '+' || c == '-'
  let digit := fun (c : Char) => if c.isDigit then some (c.toNat - 48) else none
  let (chomp, width, p) : Chomp × Option Nat × Place :=
    match p.peek, p.peekAt 1 with
    | some a, b =>
      if isSign a then
        match b.bind digit with
        | some n => (chompOf a, some n, p.skip 2)
        | none => (chompOf a, none, p.forward)
      else match digit a with
        | some n =>
          match b.filter isSign with
          | some sign => (chompOf sign, some n, p.skip 2)
          | none => (.clip, some n, p.forward)
        | none => (.clip, none, p)
    | none, _ => (.clip, none, p)
  if width == some 0 || !endsField p.peek then throw .malformed
  return (chomp, width, p)

/-- Skips the indentation of a line. -/
def skipIndent (indent : Nat) : Nat → Place → Place
  | 0, p => p
  | fuel + 1, p =>
    if p.column < indent && p.peek == some ' ' then skipIndent indent fuel p.forward else p

/-- Empty lines before the next line of a block. -/
def takeBlockBreaks (indent : Nat) : Nat → Place → List Char → List Char × Place
  | 0, p, acc => (acc, p)
  | fuel + 1, p, acc =>
    match (skipIndent indent indent p).takeBreak with
    | (some b, p) => takeBlockBreaks indent fuel p (acc ++ [b])
    | (none, p) => (acc, p)

/-- Empty lines before the first line of a block, and the deepest indentation seen. -/
def takeFirstBreaks : Nat → Place → List Char → Nat → List Char × Nat × Place
  | 0, p, acc, deepest => (acc, deepest, p)
  | fuel + 1, p, acc, deepest =>
    if p.peek == some ' ' then
      let p := p.forward
      takeFirstBreaks fuel p acc (max deepest p.column)
    else match p.takeBreak with
      | (some b, p) => takeFirstBreaks fuel p (acc ++ [b]) deepest
      | (none, p) => (acc, deepest, p)

/-- The lines of a block. Gives the text without the end of the last line, that end, and the empty
lines after it. -/
def takeBlockLines (folded : Bool) (indent : Nat) :
    Nat → Place → List Char → List Char → List Char × List Char × List Char × Place
  | 0, p, text, breaks => (text, [], breaks, p)
  | fuel + 1, p, text, breaks =>
    if p.column != indent || p.peek.isNone then (text, [], breaks, p)
    else
      let indented := fun (c : Option Char) => c == some ' ' || c == some '\t'
      let startsFlush := !indented p.peek
      let (line, p) := p.takeWhile fun c => !isBreak c
      let text := text ++ breaks ++ line
      let (end?, p) := p.takeBreak
      let lineEnd := end?.toList
      let (breaks, p) := takeBlockBreaks indent (p.rest.length + 1) p []
      if p.column == indent && p.peek.isSome then
        let joint :=
          if folded && end? == some '\n' && startsFlush && !indented p.peek then
            if breaks.isEmpty then [' '] else []
          else lineEnd
        takeBlockLines folded indent fuel p (text ++ joint) breaks
      else (text, lineEnd, breaks, p)

/-- A block scalar after its mark. `parent` is the indentation of what it stands in. -/
def takeBlock (folded : Bool) (parent : Int) (p : Place) : Except Failure (List Char × Place) := do
  let (chomp, width, p) ← takeHeader p
  let p ← p.finishLine
  let least := (max 1 (parent + 1)).toNat
  let fuel := p.rest.length + 1
  let (indent, breaks, p) :=
    match width with
    | some n =>
      let indent := least + n - 1
      let (breaks, p) := takeBlockBreaks indent fuel p []
      (indent, breaks, p)
    | none =>
      let (breaks, deepest, p) := takeFirstBreaks fuel p [] 0
      (max least deepest, breaks, p)
  let (text, lineEnd, after, p) := takeBlockLines folded indent fuel p [] breaks
  let closing := match chomp with
    | .strip => []
    | .clip => lineEnd
    | .keep => lineEnd ++ after
  return (text ++ closing, p)

end PerlSymbols.Yaml
