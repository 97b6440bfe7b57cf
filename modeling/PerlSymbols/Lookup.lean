import PerlSymbols.Document
import PerlSymbols.Request
import PerlSymbols.Text.Search
import PerlSymbols.Text.Word
import PerlSymbols.Trace

/-!
# From a symbol to an element

The canonical map of the document decides first. Otherwise candidates are looked up by scope and
line, and in the module map of the workspace. A symbol stands for an element only if exactly one
candidate is left; none or several mean that there is nothing to show.
-/

namespace PerlSymbols

/-- A line is nearer if it is later than that of the best element so far and not below the given
one. -/
def nearer (line : Int) (best e : Element) : Element :=
  if best.line < e.line ∧ e.line ≤ line then e else best

/-- The latest declaration at or above a line. The first candidate stands in when every
declaration comes later. -/
def mostRecent (first : Element) (others : List Element) (line : Int) : Element :=
  others.foldl (nearer line) first

/-- `mostRecent` of a bucket; `none` for an empty one. -/
def mostRecent? (found : List Element) (line : Int) : Option Element :=
  match found with
  | [] => none
  | first :: others => some (mostRecent first others line)

namespace Lookup

/-- The element that stands for a module known only by name. -/
def moduleElement (name uri : String) : Element :=
  { name, tag := .known .module, package := name, uri }

/-- A scalar variable with an arrow after it: the variable and what stands after the arrow. -/
def splitInvocant? (symbol : List Char) : Option (List Char × List Char) :=
  match symbol with
  | '$' :: rest =>
    let name := rest.takeWhile Text.isWord
    match rest.dropWhile Text.isWord with
    | '-' :: '>' :: after => if name.isEmpty then none else some ('$' :: name, after)
    | _ => none
  | _ => none

/-- A call through `SUPER`: the invocant and what stands after the word. -/
def superCall? (symbol : List Char) : Option (List Char × List Char) := do
  let (invocant, after) ← splitInvocant? symbol
  let rest ← Text.after? "SUPER".toList after
  if rest.head?.any Text.isWord then none else some (invocant, rest)

/-- A call of one method on a scalar variable: the variable. A line end after the method is not
part of it. -/
def objectCall? (symbol : List Char) : Option (List Char) := do
  let (invocant, after) ← splitInvocant? symbol
  let method := after.takeWhile Text.isWord
  let rest := after.dropWhile Text.isWord
  if !method.isEmpty && (rest.isEmpty || rest == ['\n']) then some invocant else none

/-- The parent of the package that the invocant belongs to, where it is known. -/
def parentOf (doc : Document) (invocant : String) (line : Int) :
    Except RequestError (Option String) :=
  match mostRecent? (doc.candidates invocant) line with
  | none => .ok none
  | some e =>
    if e.package.isEmpty then .ok none
    else match doc.parents.get? (.text e.package) with
      | none => .ok none
      | some (.text parent) => .ok (if parent.isEmpty then none else some parent)
      | some v => if v.isGiven then .error .parentNotText else .ok none

/-- The parent takes the place of the invocant and `SUPER`. -/
def qualifySuper (doc : Document) (symbol : List Char) (line : Int) :
    Except RequestError (List Char) :=
  match superCall? symbol with
  | none => .ok symbol
  | some (invocant, rest) => do
    match ← parentOf doc (String.ofList invocant) line with
    | some parent => return parent.toList ++ rest
    | none => return symbol

/-- The type of a canonical variable takes the place of the variable. -/
def qualifyObject (doc : Document) (symbol qualified : List Char) : List Char :=
  match objectCall? symbol with
  | none => qualified
  | some invocant =>
    match doc.canonical.get? (String.ofList invocant) with
    | some target =>
      if target.typeDetail.isEmpty then qualified
      else match splitInvocant? qualified with
        | some (_, after) => target.typeDetail.toList ++ '-' :: '>' :: after
        | none => qualified
    | none => qualified

/-- Arrows and package separators name the same sub, and the main package is implicit. -/
def normalize (qualified : List Char) : List Char :=
  let path := Text.replacePairs '-' '>' ':' ':' qualified
  (Text.after? "main::".toList path).getD path

/-- The name after the last package separator. -/
def baseName (name : List Char) : List Char :=
  Text.lastPart [':', ':'] name

/-- The first element of every bucket whose name ends in the method. -/
def anyWithMethod (doc : Document) (method : List Char) : List Element :=
  doc.buckets.filterMap fun (name, bucket) =>
    if baseName name.toList = method then bucket.head? else none

/-- The candidates under the qualified name, and for a method call under the bare name and then
under any package. -/
def qualifiedCandidates (doc : Document) (symbol qualified : List Char) : List Element :=
  match doc.candidates (String.ofList qualified) with
  | first :: _ => [first]
  | [] =>
    if Text.occursIn [':', ':'] qualified && Text.occursIn ['-', '>'] symbol then
      let method := baseName qualified
      if method.isEmpty then []
      else match doc.candidates (String.ofList method) with
        | first :: _ => [first]
        | [] => anyWithMethod doc method
    else []

/-- The name under which a symbol without a bucket of its own is looked for. -/
def qualified (doc : Document) (symbol : List Char) (line : Int) :
    Except RequestError (List Char) := do
  let q ← qualifySuper doc symbol line
  return normalize (qualifyObject doc symbol q)

end Lookup

/-- The candidates for a symbol, when the canonical map has none. -/
def lookup (doc : Document) (modules : ModuleMap) (symbol : String) (line : Int) :
    Except RequestError (List Element) :=
  match mostRecent? (doc.candidates symbol) line with
  | some e => .ok [e]
  | none =>
    let uri := (modules.get? symbol).getD ""
    if !uri.isEmpty then .ok [Lookup.moduleElement symbol uri]
    else do
      let qualified ← Lookup.qualified doc symbol.toList line
      return Lookup.qualifiedCandidates doc symbol.toList qualified

/-- The one element that a symbol stands for. -/
def resolve (doc : Document) (modules : ModuleMap) (symbol : String) (line : Int) :
    Traced RequestError (Option Element) :=
  if symbol.isEmpty then pure none
  else match doc.canonical.get? symbol with
    | some e => pure (some e)
    | none => do
      match ← Traced.ofExcept (lookup doc modules symbol line) with
      | [e] => return some e
      | found =>
        Traced.log .debug "symbol_unresolved"
          [("symbol", .text symbol), ("candidates", .int found.length)]
        return none

end PerlSymbols
