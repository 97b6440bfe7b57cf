/-!
# Reading UTF-8

Octets are read one at a time. A lead octet says how many tail octets are owed and which range
the first of them must be in. Where an octet cannot go on the character under way, what was read
of that character becomes one replacement character and the octet starts afresh.
-/

namespace PerlSymbols.Text.Utf8

def replacement : Char := Char.ofNat 0xFFFD

/-- Where the reader stands between octets. -/
inductive State where
  /-- Between characters. -/
  | start
  /-- Inside a character: the bits so far, the tail octets owed after the next one, and the range
  of the next one. -/
  | within (bits : Nat) (owed : Nat) (lo hi : UInt8)

/-- Reads an octet between characters. -/
def begin (b : UInt8) : List Char × State :=
  if b < 0x80 then ([Char.ofNat b.toNat], .start)
  else if b < 0xC2 then ([replacement], .start)
  else if b < 0xE0 then ([], .within (b.toNat - 0xC0) 0 0x80 0xBF)
  else if b == 0xE0 then ([], .within 0 1 0xA0 0xBF)
  else if b == 0xED then ([], .within 0xD 1 0x80 0x9F)
  else if b < 0xF0 then ([], .within (b.toNat - 0xE0) 1 0x80 0xBF)
  else if b == 0xF0 then ([], .within 0 2 0x90 0xBF)
  else if b < 0xF4 then ([], .within (b.toNat - 0xF0) 2 0x80 0xBF)
  else if b == 0xF4 then ([], .within 4 2 0x80 0x8F)
  else ([replacement], .start)

def step (state : State) (b : UInt8) : List Char × State :=
  match state with
  | .start => begin b
  | .within bits owed lo hi =>
    if lo ≤ b && b ≤ hi then
      let bits := bits * 64 + (b.toNat - 0x80)
      match owed with
      | 0 => ([Char.ofNat bits], .start)
      | owed + 1 => ([], .within bits owed 0x80 0xBF)
    else
      let (out, next) := begin b
      (replacement :: out, next)

/-- A character still under way at the end is replaced too. -/
def finish : State → List Char
  | .start => []
  | .within .. => [replacement]

def decodeFrom (state : State) : List UInt8 → List Char
  | [] => finish state
  | b :: rest =>
    let (out, next) := step state b
    out ++ decodeFrom next rest

def decode (octets : List UInt8) : List Char :=
  decodeFrom .start octets

/-- The octets of a character. -/
def encodeChar (c : Char) : List UInt8 :=
  String.utf8EncodeChar c

end PerlSymbols.Text.Utf8
