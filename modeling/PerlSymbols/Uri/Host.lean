import PerlSymbols.Text.Quoted
import PerlSymbols.Text.Search
import PerlSymbols.Value.Json

/-!
# Hosts

The authority of a URI may hold an address in brackets. It must be an IPv6 address, or an address
of a later version. A character that stands for one of the delimiters of a URI must not occur in
the authority.
-/

namespace PerlSymbols.Uri

inductive UriError where
  /-- Brackets that do not match. -/
  | unbalanced
  /-- The text in brackets is no address. -/
  | noAddress (host : String)
  | ipv4InBrackets
  /-- An address of a later version that has not the form of one. -/
  | badFuture
  | lookalike (authority : String)
  deriving DecidableEq

def UriError.message : UriError → String
  | .unbalanced => "Invalid IPv6 URL"
  | .noAddress host => Text.quoted host ++ " does not appear to be an IPv4 or IPv6 address"
  | .ipv4InBrackets => "An IPv4 address cannot be in brackets"
  | .badFuture => "IPvFuture address is invalid"
  | .lookalike authority =>
    "netloc '" ++ authority ++ "' contains invalid characters under NFKC normalization"

def isHex (c : Char) : Bool :=
  (Json.hexValue? c).isSome

/-- A part of an IPv4 address: up to 255, without leading zeros. -/
def isOctet (cs : List Char) : Bool :=
  !cs.isEmpty && cs.all Char.isDigit && cs.length ≤ 3 && (cs.length == 1 || cs.head? != some '0')
    && cs.foldl (fun n c => n * 10 + (c.toNat - 48)) 0 ≤ 255

def isIpv4 (cs : List Char) : Bool :=
  let octets := Text.pieces '.' cs
  octets.length == 4 && octets.all isOctet

/-- A group of an IPv6 address: one to four hexadecimal digits. -/
def isGroup (cs : List Char) : Bool :=
  !cs.isEmpty && cs.length ≤ 4 && cs.all isHex

/-- How many groups one side of a gap has; a single empty one is the gap reaching the end. -/
def sideLength? (side : List (List Char)) : Option Nat :=
  if side == [[]] then some 0
  else if side.all isGroup then some side.length
  else none

/-- Checks the groups of an IPv6 address. At most one gap, an empty group inside, stands for one
group of zeros or more. -/
def groupsValid (groups : List (List Char)) : Bool :=
  let inner := (groups.drop 1).dropLast
  match inner.filter List.isEmpty with
  | [] => groups.length == 8 && groups.all isGroup
  | [_] =>
    let gap := 1 + inner.findIdx List.isEmpty
    match sideLength? (groups.take gap), sideLength? (groups.drop (gap + 1)) with
    | some high, some low => high + low ≤ 7
    | _, _ => false
  | _ => false

/-- An IPv6 address, perhaps with an IPv4 address at the end and with a zone after a percent
sign. -/
def isIpv6 (cs : List Char) : Bool :=
  let (address, zoneOk) := match Text.splitFirst? ['%'] cs with
    | none => (cs, true)
    | some (address, zone) => (address, !zone.isEmpty && !zone.contains '%')
  let groups := Text.pieces ':' address
  let last := groups.getLast?.getD []
  let (groups, tailOk) :=
    if last.contains '.' then (groups.dropLast ++ [['0'], ['0']], isIpv4 last) else (groups, true)
  zoneOk && tailOk && 3 ≤ (Text.pieces ':' address).length && groups.length ≤ 9
    && groupsValid groups

/-- `v`, hexadecimal digits, a point and something more. -/
def isFuture (cs : List Char) : Bool :=
  match cs with
  | 'v' :: rest =>
    let version := rest.takeWhile isHex
    match rest.dropWhile isHex with
    | '.' :: more => !version.isEmpty && !more.isEmpty
    | _ => false
  | _ => false

/-- Checks the text between brackets. -/
def checkBracketed (host : List Char) : Except UriError Unit :=
  if host.head? == some 'v' then
    if isFuture host then .ok () else .error .badFuture
  else if host.contains '/' then .error (.noAddress (String.ofList host))
  else if isIpv4 host then .error .ipv4InBrackets
  else if isIpv6 host then .ok ()
  else .error (.noAddress (String.ofList host))

/-- Characters that are another form of `/`, `?`, `#`, `@` or `:`, or of a text with one of these
in it. -/
def lookalikes : List Nat :=
  [0x2047, 0x2048, 0x2049, 0x2100, 0x2101, 0x2105, 0x2106, 0x2a74, 0xfe13, 0xfe16, 0xfe55, 0xfe56,
    0xfe5f, 0xfe6b, 0xff03, 0xff0f, 0xff1a, 0xff1f, 0xff20]

/-- The authority without its user part: what stands after the last `@`. -/
def afterUser (authority : List Char) : List Char :=
  Text.lastPart ['@'] authority

/-- The text to be checked as an address: between the brackets of the host, which start it and
have only `:` and a number after them, or the host itself where only the user part has brackets. -/
def bracketedHost (authority : List Char) : Except UriError (List Char) :=
  let rest := afterUser authority
  match Text.splitFirst? ['['] rest with
  | none => .ok (rest.takeWhile (· != ':'))
  | some (before, inner) =>
    let tail := (inner.dropWhile (· != ']')).drop 1
    if !before.isEmpty || !(tail.head?.all (· == ':')) then .error .unbalanced
    else .ok (inner.takeWhile (· != ']'))

/-- Brackets come in both kinds or not at all. -/
def checkBrackets (authority : List Char) : Except UriError Unit :=
  match authority.contains '[', authority.contains ']' with
  | false, false => .ok ()
  | true, true => do checkBracketed (← bracketedHost authority)
  | _, _ => .error .unbalanced

def checkCharacters (authority : List Char) : Except UriError Unit :=
  if authority.any fun c => lookalikes.contains c.toNat then
    .error (.lookalike (String.ofList authority))
  else .ok ()

end PerlSymbols.Uri
