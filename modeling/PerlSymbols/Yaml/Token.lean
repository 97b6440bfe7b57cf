import PerlSymbols.Text.Utf8
import PerlSymbols.Value.Json
import PerlSymbols.Yaml.Place

/-!
# Tokens of a settings text

The marks of the grammar, and the tokens that are read by their own small rules: names of anchors,
tags, and the directives in front of a document.
-/

namespace PerlSymbols.Yaml

/-- A line in front of a document that starts with a percent sign. -/
inductive Directive where
  | version (major minor : Nat)
  | handle (name target : String)
  | other
  deriving DecidableEq

inductive Token where
  | directive (d : Directive)
  | documentStart
  | documentEnd
  | streamEnd
  | blockListStart
  | blockMapStart
  | blockEnd
  | flowListStart
  | flowListEnd
  | flowMapStart
  | flowMapEnd
  | blockEntry
  | flowEntry
  | key
  | value
  | alias (name : String)
  | anchor (name : String)
  /-- A tag, with the handle in front of it if it has one. -/
  | tag (handle : Option String) (suffix : String)
  | scalar (text : String) (plain : Bool)
  deriving DecidableEq

/-! ## Names and tags -/

def isNameChar (c : Char) : Bool :=
  c.isAlphanum || c == '-' || c == '_'

/-- The name of an anchor, after its mark. -/
def takeName (p : Place) : Except Failure (String × Place) :=
  let (name, p) := p.takeWhile isNameChar
  let closed := endsWord p.peek
    || p.peek.any fun c => ['?', ':', ',', ']', '\x7d', '%', '@', '\x60'].contains c
  if name.isEmpty || !closed then .error .malformed
  else .ok (String.ofList name, p)

def isTagChar (c : Char) : Bool :=
  c.isAlphanum || ['-', ';', '/', '?', ':', '@', '&', '=', '+', '$', ',', '_', '.', '!', '~', '*',
    '\x27', '(', ')', '[', ']'].contains c

/-- The octets of percent escapes in front of a text. -/
def takeOctets : List Char → Except Failure (List UInt8 × List Char)
  | '%' :: a :: b :: rest => do
    match Json.hexValue? a, Json.hexValue? b with
    | some high, some low =>
      let (octets, rest) ← takeOctets rest
      return ((high * 16 + low).toUInt8 :: octets, rest)
    | _, _ => throw .malformed
  | '%' :: _ => .error .malformed
  | rest => .ok ([], rest)

/-- Octets that are valid UTF-8. -/
def decodeOctets (octets : List UInt8) : Except Failure (List Char) :=
  let cs := Text.Utf8.decode octets
  if cs.flatMap Text.Utf8.encodeChar == octets then .ok cs else .error .malformed

/-- The body of a tag. -/
def takeTagBody : Nat → Place → List Char → Except Failure (String × Place)
  | 0, _, _ => .error .malformed
  | fuel + 1, p, acc =>
    match p.peek with
    | some '%' => do
      let (octets, rest) ← takeOctets p.rest
      let cs ← decodeOctets octets
      takeTagBody fuel (p.skip (p.rest.length - rest.length)) (acc ++ cs)
    | some c =>
      if isTagChar c then takeTagBody fuel p.forward (acc ++ [c])
      else finish p acc
    | none => finish p acc
where
  finish (p : Place) (acc : List Char) : Except Failure (String × Place) :=
    if acc.isEmpty then .error .malformed else .ok (String.ofList acc, p)

/-- A handle: an exclamation mark, or a name between two of them. -/
def takeHandle (p : Place) : Except Failure (String × Place) :=
  match p.rest with
  | '!' :: ' ' :: _ => .ok ("!", p.forward)
  | '!' :: rest =>
    let name := rest.takeWhile isNameChar
    if (rest.drop name.length).head? == some '!' then
      .ok (String.ofList ('!' :: name ++ ['!']), p.skip (name.length + 2))
    else .error .malformed
  | _ => .error .malformed

/-- A tag, at its exclamation mark. -/
def takeTag (p : Place) : Except Failure (Token × Place) := do
  let body (p : Place) := takeTagBody (p.rest.length + 1) p []
  let (token, p) ←
    if p.peekAt 1 == some '<' then do
      let (suffix, p) ← body (p.skip 2)
      if p.peek != some '>' then throw .malformed
      pure (Token.tag none suffix, p.forward)
    else if endsWord (p.peekAt 1) then
      pure (Token.tag none "!", p.forward)
    else do
      let word := p.forward.rest.takeWhile fun c => !endsField (some c)
      let (handle, p) ← if word.contains '!' then takeHandle p else pure ("!", p.forward)
      let (suffix, p) ← body p
      pure (Token.tag (some handle) suffix, p)
  if endsField p.peek then return (token, p) else throw .malformed

/-! ## Directives -/

def takeNumber (p : Place) : Except Failure (Nat × Place) :=
  let (digits, p) := p.takeWhile Char.isDigit
  if digits.isEmpty then .error .malformed
  else if Decimal.digitLimit < digits.length then
    let reason := Decimal.NumeralError.tooLong digits.length
    .error (.badScalar (reason.message 10 (String.ofList digits)))
  else .ok (digits.foldl (fun n c => n * 10 + (c.toNat - 48)) 0, p)

def takeVersion (p : Place) : Except Failure (Directive × Place) := do
  let (major, p) ← takeNumber p.skipSpaces
  if p.peek != some '.' then throw .malformed
  let (minor, p) ← takeNumber p.forward
  if endsField p.peek then return (.version major minor, p) else throw .malformed

def takeHandleTarget (p : Place) : Except Failure (Directive × Place) := do
  let (name, p) ← takeHandle p.skipSpaces
  if p.peek != some ' ' then throw .malformed
  let p := p.skipSpaces
  let (target, p) ← takeTagBody (p.rest.length + 1) p []
  if endsField p.peek then return (.handle name target, p) else throw .malformed

/-- A directive, at its percent sign, with the rest of its line. -/
def takeDirective (p : Place) : Except Failure (Directive × Place) := do
  let (name, p) := p.forward.takeWhile isNameChar
  if name.isEmpty || !endsField p.peek then throw .malformed
  let (directive, p) ←
    if name == "YAML".toList then takeVersion p
    else if name == "TAG".toList then takeHandleTarget p
    else pure (.other, p.skipLine)
  let p ← p.finishLine
  return (directive, p)

end PerlSymbols.Yaml
