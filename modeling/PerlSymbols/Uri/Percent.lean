import PerlSymbols.Text.Utf8
import PerlSymbols.Value.Json

/-!
# Percent escapes

An escape stands for one octet. Octets of one run of ASCII characters and escapes are read as
UTF-8 together; a character beyond ASCII ends the run and stays as it is.
-/

namespace PerlSymbols.Uri

/-- The octet that two hexadecimal digits stand for. -/
def octet? (high low : Char) : Option UInt8 := do
  let high ← Json.hexValue? high
  let low ← Json.hexValue? low
  return UInt8.ofNat (high * 16 + low)

/-- Goes on reading from a state of the UTF-8 reader. -/
def unescapeFrom (state : Text.Utf8.State) : List Char → List Char
  | [] => Text.Utf8.finish state
  | '%' :: high :: low :: rest =>
    match octet? high low with
    | some b =>
      let (out, next) := Text.Utf8.step state b
      out ++ unescapeFrom next rest
    | none =>
      let (out, next) := Text.Utf8.step state 37
      out ++ unescapeFrom next (high :: low :: rest)
  | c :: rest =>
    if c.toNat < 128 then
      let (out, next) := Text.Utf8.step state (UInt8.ofNat c.toNat)
      out ++ unescapeFrom next rest
    else Text.Utf8.finish state ++ c :: unescapeFrom .start rest

/-- The text with its escapes resolved. A percent sign without two hexadecimal digits stays. -/
def unescape (cs : List Char) : List Char :=
  unescapeFrom .start cs

end PerlSymbols.Uri
