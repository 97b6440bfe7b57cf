import PerlSymbols.Uri.Host
import PerlSymbols.Uri.Percent

/-!
# Paths of file URIs

A file URI is shown as the path it stands for. Any other URI is shown as it is, but its authority
is checked all the same.
-/

namespace PerlSymbols.Uri

/-- The parts of a URI that matter here. -/
structure Parts where
  /-- In lower case; empty where there is none. -/
  scheme : List Char
  authority : List Char
  /-- Without query and fragment, escapes unresolved. -/
  path : List Char

def isSchemeChar (c : Char) : Bool :=
  c.isAlphanum || c == '+' || c == '-' || c == '.'

/-- Control characters and spaces in front do not count, nor do tabs and line ends anywhere. -/
def clean (cs : List Char) : List Char :=
  (cs.dropWhile fun c => c.toNat ≤ 32).filter fun c => c != '\t' && c != '\r' && c != '\n'

/-- The scheme, which starts with a letter, and what stands after its colon. -/
def splitScheme (cs : List Char) : List Char × List Char :=
  match Text.splitFirst? [':'] cs with
  | some (scheme, rest) =>
    if scheme.head?.any Char.isAlpha && scheme.all isSchemeChar then (scheme.map Char.toLower, rest)
    else ([], cs)
  | none => ([], cs)

/-- The authority, which ends at a slash, a question mark or a number sign. -/
def splitAuthority (cs : List Char) : List Char × List Char :=
  match cs with
  | '/' :: '/' :: rest =>
    let inside := fun c => c != '/' && c != '?' && c != '#'
    (rest.takeWhile inside, rest.dropWhile inside)
  | _ => ([], cs)

def split (uri : String) : Except UriError Parts := do
  let (scheme, rest) := splitScheme (clean uri.toList)
  let (authority, rest) := splitAuthority rest
  checkBrackets authority
  checkCharacters authority
  return { scheme, authority, path := rest.takeWhile fun c => c != '?' && c != '#' }

/-- A drive letter and a colon after the first slash. -/
def hasDrive : List Char → Bool
  | '/' :: letter :: ':' :: _ => letter.isAlpha
  | _ => false

/-- The path to show for a URI. -/
def displayPath (uri : String) : Except UriError String := do
  let parts ← split uri
  if parts.scheme != "file".toList then return uri
  let path := unescape parts.path
  if !parts.authority.isEmpty then
    return String.ofList ('/' :: '/' :: parts.authority ++ path)
  else if hasDrive path then return String.ofList (path.drop 1)
  else return String.ofList path

end PerlSymbols.Uri
