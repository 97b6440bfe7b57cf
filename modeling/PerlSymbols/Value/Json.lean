import PerlSymbols.Value.Written

/-!
# Values in JSON

The reader keeps the order of the keys of an object, takes the last value of a repeated key, and
knows the names of the numbers that are not finite. The writer puts one value on one line.
-/

namespace PerlSymbols.Json

/-! ## Reading -/

def isSpace (c : Char) : Bool :=
  c == ' ' || c == '\t' || c == '\n' || c == '\r'

def skipSpace (cs : List Char) : List Char :=
  cs.dropWhile isSpace

def hexValue? (c : Char) : Option Nat :=
  if c.isDigit then some (c.toNat - 48)
  else if 'a' ≤ c && c ≤ 'f' then some (c.toNat - 87)
  else if 'A' ≤ c && c ≤ 'F' then some (c.toNat - 55)
  else none

/-- Four hexadecimal digits in front of a text. -/
def readHex4 : List Char → Option (Nat × List Char)
  | a :: b :: c :: d :: rest => do
    let a ← hexValue? a
    let b ← hexValue? b
    let c ← hexValue? c
    let d ← hexValue? d
    return (((a * 16 + b) * 16 + c) * 16 + d, rest)
  | _ => none

/-- The character of an escape by code unit. Two units of a pair make one character, and a unit
that stands alone makes the replacement character. -/
def readUnit (cs : List Char) : Option (Char × List Char) := do
  let (unit, rest) ← readHex4 cs
  if 0xD800 ≤ unit && unit < 0xDC00 then
    match rest with
    | '\\' :: 'u' :: after =>
      let (low, rest') ← readHex4 after
      if 0xDC00 ≤ low && low < 0xE000 then
        return (Char.ofNat (0x10000 + (unit - 0xD800) * 0x400 + (low - 0xDC00)), rest')
      else return (Char.ofNat 0xFFFD, rest)
    | _ => return (Char.ofNat 0xFFFD, rest)
  else if 0xDC00 ≤ unit && unit < 0xE000 then return (Char.ofNat 0xFFFD, rest)
  else return (Char.ofNat unit, rest)

def simpleEscape? : Char → Option Char
  | '"' => some '"'
  | '\\' => some '\\'
  | '/' => some '/'
  | 'b' => some '\x08'
  | 'f' => some '\x0c'
  | 'n' => some '\n'
  | 'r' => some '\r'
  | 't' => some '\t'
  | _ => none

/-- The text up to the closing quote; control characters are refused. -/
def readString (fuel : Nat) (cs : List Char) (acc : List Char) : Option (String × List Char) :=
  match fuel, cs with
  | 0, _ | _, [] => none
  | fuel + 1, c :: rest =>
    if c == '"' then some (String.ofList acc.reverse, rest)
    else if c == '\\' then
      match rest with
      | 'u' :: after => do
        let (c, rest) ← readUnit after
        readString fuel rest (c :: acc)
      | c :: after => do
        let c ← simpleEscape? c
        readString fuel after (c :: acc)
      | [] => none
    else if c.toNat < 32 then none
    else readString fuel rest (c :: acc)

/-- A number. A leading zero stands alone, and a number without point and exponent is whole; then it
must not be too long. -/
def readNumber (cs : List Char) : Option (Value × List Char) :=
  let (negative, body) := match cs with
    | '-' :: rest => (true, rest)
    | _ => (false, cs)
  match body with
  | c :: rest =>
    let (n, after) := Decimal.readNumeral false body
    if !c.isDigit then none
    else if c == '0' && 1 < n.whole.length then some (.int 0, rest)
    else (finish negative n).map fun v => (v, after)
  | [] => none
where
  finish (negative : Bool) (n : Decimal.Numeral) : Option Value :=
    if n.isWhole then
      if Decimal.digitLimit < n.whole.length then none
      else
        let d : Int := Decimal.digitsValue n.whole
        some (.int (if negative then -d else d))
    else some (.float (n.toFloat negative))

def literals : List (String × Value) :=
  [("null", .null), ("true", .bool true), ("false", .bool false), ("NaN", .float (0.0 / 0.0)),
    ("Infinity", .float (1.0 / 0.0)), ("-Infinity", .float (-1.0 / 0.0))]

def readLiteral (cs : List Char) : Option (Value × List Char) :=
  literals.findSome? fun (name, v) =>
    if name.toList.isPrefixOf cs then some (v, cs.drop name.length) else none

mutual

def readValue (fuel : Nat) (cs : List Char) : Option (Value × List Char) :=
  match fuel, cs with
  | 0, _ => none
  | _ + 1, '"' :: rest => do
    let (s, rest) ← readString (rest.length + 1) rest []
    return (.text s, rest)
  | fuel + 1, '[' :: rest =>
    match skipSpace rest with
    | ']' :: rest => some (.list [], rest)
    | rest => readItems fuel rest []
  | fuel + 1, '\x7b' :: rest =>
    match skipSpace rest with
    | '\x7d' :: rest => some (.map [], rest)
    | rest => readEntries fuel rest []
  | _ + 1, cs => (readLiteral cs).or (readNumber cs)

/-- Items up to the closing bracket, in reverse. -/
def readItems (fuel : Nat) (cs : List Char) (acc : List Value) : Option (Value × List Char) :=
  match fuel with
  | 0 => none
  | fuel + 1 => do
    let (v, rest) ← readValue fuel cs
    match skipSpace rest with
    | ',' :: rest => readItems fuel (skipSpace rest) (v :: acc)
    | ']' :: rest => return (.list (v :: acc).reverse, rest)
    | _ => none

def readEntries (fuel : Nat) (cs : List Char) (acc : List (Key × Value)) :
    Option (Value × List Char) :=
  match fuel with
  | 0 => none
  | fuel + 1 =>
    match cs with
    | '"' :: rest => do
      let (name, rest) ← readString (rest.length + 1) rest []
      match skipSpace rest with
      | ':' :: rest =>
        let (v, rest) ← readValue fuel (skipSpace rest)
        let acc := (Key.text name, v) :: acc
        match skipSpace rest with
        | ',' :: rest => readEntries fuel (skipSpace rest) acc
        | '\x7d' :: rest => return (.map (Entries.ofList acc.reverse), rest)
        | _ => none
      | _ => none
    | _ => none

end

/-- Reads a text that holds one value and nothing else. -/
def parse? (s : String) : Option Value := do
  let cs := s.toList
  let (v, rest) ← readValue (2 * cs.length + 2) (skipSpace cs)
  if (skipSpace rest).isEmpty then return v else none

/-! ## Writing -/

def escape (c : Char) : List Char :=
  if c == '"' then ['\\', '"']
  else if c == '\\' then ['\\', '\\']
  else if c == '\n' then ['\\', 'n']
  else if c == '\r' then ['\\', 'r']
  else if c == '\t' then ['\\', 't']
  else if c.toNat < 32 then '\\' :: 'u' :: Text.hexDigits 4 c.toNat
  else [c]

def writeString (s : String) : String :=
  String.ofList ('"' :: s.toList.flatMap escape ++ ['"'])

def writeFloat (x : Float) : String :=
  if x.isNaN then "NaN"
  else if x.isInf then if x < 0 then "-Infinity" else "Infinity"
  else Decimal.written x

/-- The name under which a key stands in an object. -/
def keyName : Key → String
  | .null => "null"
  | .bool b => if b then "true" else "false"
  | .int n => toString n
  | .float bits => writeFloat (Float.ofBits bits)
  | .text s => s
  | .stamp t => t.written

mutual

def write : Value → String
  | .null => "null"
  | .bool b => if b then "true" else "false"
  | .int n => toString n
  | .float x => writeFloat x
  | .text s => writeString s
  | .stamp t => writeString t.written
  | .list items => "[" ++ ",".intercalate (writeItems items) ++ "]"
  | .map entries => "\x7b" ++ ",".intercalate (writeEntries entries) ++ "\x7d"

def writeItems : List Value → List String
  | [] => []
  | v :: rest => write v :: writeItems rest

def writeEntries : List (Key × Value) → List String
  | [] => []
  | (k, v) :: rest => (writeString (keyName k) ++ ":" ++ write v) :: writeEntries rest

end

end PerlSymbols.Json
