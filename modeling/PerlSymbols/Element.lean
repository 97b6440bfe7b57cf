import PerlSymbols.Kind
import PerlSymbols.Value.Written

/-!
# Elements

An element is one entity of a program that the indexer found: a sub, a package, a variable.
-/

namespace PerlSymbols

structure Element where
  name : String
  tag : Tag
  /-- The object type of a variable, or the full name behind an imported sub. -/
  typeDetail : String := ""
  package : String := ""
  value : String := ""
  line : Int := 0
  lineEnd : Int := 0
  uri : String := ""
  /-- Parameters, as the indexer gave them; it may give what is no text. -/
  signature : Option (List Value) := none

namespace Element

def kind? (e : Element) : Option Kind :=
  e.tag.kind?

/-- The fields under the names the indexer uses. -/
def toFields (e : Element) : List (String × Value) :=
  [("name", .text e.name), ("kind", e.tag.toValue), ("type_detail", .text e.typeDetail),
    ("package", .text e.package), ("value", .text e.value), ("line", .int e.line),
    ("line_end", .int e.lineEnd), ("uri", .text e.uri),
    ("signature", match e.signature with | some items => .list items | none => .null)]

end Element

end PerlSymbols
