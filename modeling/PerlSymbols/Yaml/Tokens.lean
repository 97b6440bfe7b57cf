import PerlSymbols.Yaml.Scalar
import PerlSymbols.Yaml.Token

/-!
# From a settings text to its tokens

Structure comes from indentation outside of brackets and from marks inside of them. A key is known
as a key only by the colon behind it, so whatever may turn out to be a key is remembered, and the
mark of the key is put in front of it when the colon comes.
-/

namespace PerlSymbols.Yaml

/-- What may turn out to be a key. -/
structure PendingKey where
  /-- The number of the token that the mark goes in front of. -/
  number : Nat
  /-- Nothing but a key can stand here. -/
  required : Bool
  index : Nat
  line : Nat
  column : Nat

/-- How far a colon may stand behind the start of its key. -/
def PendingKey.reach : Nat := 1024

/-- The reading of a text so far. -/
structure Scanner where
  place : Place
  tokens : List Token := []
  /-- How many brackets are open. -/
  depth : Nat := 0
  /-- The indentation of the innermost block, and `-1` outside of all. -/
  indent : Int := -1
  indents : List Int := []
  /-- A key may start here. -/
  keyAllowed : Bool := true
  /-- At most one pending key for each number of open brackets. -/
  pending : List (Nat × PendingKey) := []

namespace Scanner

def emit (s : Scanner) (t : Token) : Scanner :=
  { s with tokens := s.tokens ++ [t] }

def emitAt (s : Scanner) (number : Nat) (t : Token) : Scanner :=
  { s with tokens := s.tokens.take number ++ t :: s.tokens.drop number }

def inFlow (s : Scanner) : Bool :=
  s.depth != 0

/-! ## Space between tokens -/

/-- Skips spaces, comments and line ends. A new line may start a key. -/
def skipBlank : Nat → Scanner → Scanner
  | 0, s => s
  | fuel + 1, s =>
    let p := s.place.skipSpaces
    let p := if p.peek == some '#' then p.skipLine else p
    match p.takeBreak with
    | (some _, p) => skipBlank fuel { s with place := p, keyAllowed := s.keyAllowed || !s.inFlow }
    | (none, p) => { s with place := p }

/-! ## Pending keys -/

/-- Forgets the keys that no colon can reach any more. -/
def dropStaleKeys (s : Scanner) : Except Failure Scanner :=
  let isStale (k : PendingKey) :=
    k.line != s.place.line || PendingKey.reach < s.place.index - k.index
  if s.pending.any fun (_, k) => isStale k && k.required then .error .malformed
  else .ok { s with pending := s.pending.filter fun (_, k) => !isStale k }

/-- Forgets the pending key at the present depth. -/
def dropKey (s : Scanner) : Except Failure Scanner :=
  match s.pending.lookup s.depth with
  | some k =>
    if k.required then .error .malformed
    else .ok { s with pending := s.pending.filter fun (d, _) => d != s.depth }
  | none => .ok s

/-- Remembers that the next token may be a key. -/
def saveKey (s : Scanner) : Except Failure Scanner :=
  if !s.keyAllowed then .ok s
  else do
    let s ← s.dropKey
    let k : PendingKey := {
      number := s.tokens.length
      required := !s.inFlow && s.indent == (s.place.column : Int)
      index := s.place.index
      line := s.place.line
      column := s.place.column }
    return { s with pending := (s.depth, k) :: s.pending }

/-! ## Indentation -/

/-- Closes the blocks that are indented deeper than `column`. -/
def closeBlocks (column : Int) : List Int → Scanner → Scanner
  | [], s => s
  | outer :: indents, s =>
    if s.indent ≤ column then s
    else closeBlocks column indents { s.emit .blockEnd with indent := outer, indents }

def unwind (s : Scanner) (column : Int) : Scanner :=
  if s.inFlow then s else closeBlocks column s.indents s

/-- Opens a block where the indentation grows; says whether it did. -/
def open? (s : Scanner) (column : Nat) : Bool × Scanner :=
  if s.indent < (column : Int) then
    (true, { s with indents := s.indent :: s.indents, indent := column })
  else (false, s)

/-- Opens a block at the present column and emits its start. -/
def openHere (s : Scanner) (start : Token) : Except Failure Scanner :=
  if !s.keyAllowed then .error .malformed
  else match s.open? s.place.column with
    | (true, s) => .ok (s.emit start)
    | (false, s) => .ok s

/-! ## One token at a time -/

def takeMark (s : Scanner) (length : Nat) (t : Token) : Scanner :=
  { s with place := s.place.skip length }.emit t

def takeOpening (s : Scanner) (t : Token) : Except Failure Scanner := do
  let s ← s.saveKey
  return { s with depth := s.depth + 1, keyAllowed := true }.takeMark 1 t

def takeClosing (s : Scanner) (t : Token) : Except Failure Scanner := do
  let s ← s.dropKey
  if s.depth == 0 then throw .malformed
  return { s with depth := s.depth - 1, keyAllowed := false }.takeMark 1 t

/-- What ends all blocks: a separator of documents, a directive, the end of the text. -/
def finishBlocks (s : Scanner) : Except Failure Scanner := do
  let s ← (s.unwind (-1)).dropKey
  return { s with keyAllowed := false }

def takeEntry (s : Scanner) : Except Failure Scanner := do
  let s ← if s.inFlow then pure s else s.openHere .blockListStart
  let s ← { s with keyAllowed := true }.dropKey
  return s.takeMark 1 .blockEntry

def takeKeyMark (s : Scanner) : Except Failure Scanner := do
  let s ← if s.inFlow then pure s else s.openHere .blockMapStart
  let s ← { s with keyAllowed := !s.inFlow }.dropKey
  return s.takeMark 1 .key

/-- A colon. It makes a key of the pending key, if there is one. -/
def takeValueMark (s : Scanner) : Except Failure Scanner := do
  match s.pending.lookup s.depth with
  | some k =>
    let s := { s with
      pending := s.pending.filter fun (d, _) => d != s.depth
      keyAllowed := false }
    let s := s.emitAt k.number .key
    let s := if s.inFlow then s
      else match s.open? k.column with
        | (true, s) => s.emitAt k.number .blockMapStart
        | (false, s) => s
    return s.takeMark 1 .value
  | none =>
    let s ← if s.inFlow then pure s else s.openHere .blockMapStart
    let s ← { s with keyAllowed := !s.inFlow }.dropKey
    return s.takeMark 1 .value

def takeAnchor (s : Scanner) (token : String → Token) : Except Failure Scanner := do
  let s ← s.saveKey
  let (name, place) ← takeName s.place.forward
  return { s with place, keyAllowed := false }.emit (token name)

def takeTagToken (s : Scanner) : Except Failure Scanner := do
  let s ← s.saveKey
  let (token, place) ← takeTag s.place
  return { s with place, keyAllowed := false }.emit token

def takeBlockToken (s : Scanner) (folded : Bool) : Except Failure Scanner := do
  let s ← { s with keyAllowed := true }.dropKey
  let (text, place) ← takeBlock folded s.indent s.place.forward
  return { s with place }.emit (.scalar (String.ofList text) false)

def takeQuotedToken (s : Scanner) (double : Bool) : Except Failure Scanner := do
  let s ← s.saveKey
  let (text, place) ← takeQuoted double (s.place.rest.length + 1) s.place.forward []
  return { s with place, keyAllowed := false }.emit (.scalar (String.ofList text) false)

def takePlainToken (s : Scanner) : Except Failure Scanner := do
  let s ← s.saveKey
  let start : Plain := { text := [], place := s.place, lineEnded := false }
  let plain := takePlain s.inFlow (s.indent + 1) (s.place.rest.length + 1) start []
  return { s with place := plain.place, keyAllowed := plain.lineEnded }.emit
    (.scalar (String.ofList plain.text) true)

/-- May a plain scalar start with `c`, in front of `next`? -/
def startsPlain (inFlow : Bool) (c : Char) (next : Option Char) : Bool :=
  let indicators := ['-', '?', ':', ',', '[', ']', '\x7b', '\x7d', '#', '&', '*', '!', '|', '>',
    '\x27', '"', '%', '@', '\x60']
  (!endsWord (some c) && !indicators.contains c)
    || (!endsWord next && (c == '-' || (!inFlow && (c == '?' || c == ':'))))

/-- The next token, which starts with `c`. -/
def takeToken (s : Scanner) (c : Char) : Except Failure Scanner :=
  let next := s.place.peekAt 1
  let isMark := s.inFlow || endsWord next
  if c == '%' && s.place.column == 0 then do
    let s ← s.finishBlocks
    let (d, place) ← takeDirective s.place
    return { s with place }.emit (.directive d)
  else if s.place.column == 0 && s.place.atSeparator then do
    let s ← s.finishBlocks
    return s.takeMark 3 (if c == '-' then .documentStart else .documentEnd)
  else if c == '[' then s.takeOpening .flowListStart
  else if c == '\x7b' then s.takeOpening .flowMapStart
  else if c == ']' then s.takeClosing .flowListEnd
  else if c == '\x7d' then s.takeClosing .flowMapEnd
  else if c == ',' then do
    let s ← { s with keyAllowed := true }.dropKey
    return s.takeMark 1 .flowEntry
  else if c == '-' && endsWord next then s.takeEntry
  else if c == '?' && isMark then s.takeKeyMark
  else if c == ':' && isMark then s.takeValueMark
  else if c == '*' then s.takeAnchor .alias
  else if c == '&' then s.takeAnchor .anchor
  else if c == '!' then s.takeTagToken
  else if c == '|' && !s.inFlow then s.takeBlockToken false
  else if c == '>' && !s.inFlow then s.takeBlockToken true
  else if c == '\x27' then s.takeQuotedToken false
  else if c == '"' then s.takeQuotedToken true
  else if startsPlain s.inFlow c next then s.takePlainToken
  else .error .malformed

/-- The tokens up to the end of the text, or up to a failure. -/
def run : Nat → Scanner → List Token × Option Failure
  | 0, s => (s.tokens, some .malformed)
  | fuel + 1, s =>
    let s := skipBlank (s.place.rest.length + 1) s
    match s.dropStaleKeys with
    | .error e => (s.tokens, some e)
    | .ok s =>
      let s := s.unwind s.place.column
      match s.place.peek with
      | none =>
        match s.finishBlocks with
        | .ok s => (s.tokens ++ [.streamEnd], none)
        | .error e => (s.tokens, some e)
      | some c =>
        match s.takeToken c with
        | .ok s => run fuel s
        | .error e => (s.tokens, some e)

end Scanner

/-- Characters that a settings text may hold. -/
def isAllowed (c : Char) : Bool :=
  let n := c.toNat
  n == 9 || n == 10 || (0x20 ≤ n && n ≤ 0x7E) || n == 0x85 || (0xA0 ≤ n && n ≤ 0xFFFD)
    || 0x10000 ≤ n

/-- Carriage returns, alone or before a line feed, are line feeds. -/
def unifyBreaks : List Char → List Char
  | '\r' :: '\n' :: rest => '\n' :: unifyBreaks rest
  | '\r' :: rest => '\n' :: unifyBreaks rest
  | c :: rest => c :: unifyBreaks rest
  | [] => []

/-- The tokens of a text, and the failure that ended them, if one did. -/
def tokensOf (text : String) : List Token × Option Failure :=
  let cs := unifyBreaks text.toList
  if cs.all isAllowed then
    let start : Place := { rest := cs }
    let start := if start.peek == some byteOrderMark then start.forward else start
    Scanner.run (cs.length + 1) { place := start }
  else ([], some .malformed)

end PerlSymbols.Yaml
