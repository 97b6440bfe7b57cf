import PerlSymbols.Element.Loading

/-!
# Documents

A document is what the indexer found in one file. Elements of one name share a bucket; buckets
stand in the order of the first element of their name, and a bucket keeps the order of arrival.
-/

namespace PerlSymbols

structure Document where
  uri : String
  /-- Candidates by symbol, in order of discovery. -/
  buckets : Entries String (List Element) := []
  /-- The one unambiguous element for a symbol. -/
  canonical : Entries String Element := []
  /-- The parent of a package, for calls to `SUPER`. -/
  parents : Entries Key Value := []
  /-- Imported modules with the line of the import. -/
  imported : Entries String Int := []

/-- Module names with the URI of the document that defines each. -/
abbrev ModuleMap := Entries String String

namespace Document

/-- The bucket of a symbol; a missing bucket is an empty one. -/
def candidates (doc : Document) (symbol : String) : List Element :=
  (doc.buckets.get? symbol).getD []

/-- Puts an element at the end of the bucket of its name. -/
def addTo (buckets : Entries String (List Element)) (e : Element) :
    Entries String (List Element) :=
  buckets.put e.name ((buckets.get? e.name).getD [] ++ [e])

def addElement (doc : Document) (e : Element) : Document :=
  { doc with buckets := addTo doc.buckets e }

/-- Stores an empty bucket under a name that has none. -/
def addEmptyBucket (doc : Document) (name : String) : Document :=
  if doc.buckets.contains name then doc
  else { doc with buckets := doc.buckets.put name [] }

def ofElements (uri : String) (elements : List Element)
    (canonical : Entries String Element) (parents : Entries Key Value) : Document :=
  elements.foldl addElement { uri, canonical, parents }

end Document

/-! ## Loading -/

/-- Why a record of the indexer is no document. -/
inductive DocumentError where
  | load (e : LoadError)
  /-- An entry of a list of pairs does not have two items. -/
  | notAPair (position length : Nat)
  deriving DecidableEq

def DocumentError.message : DocumentError → String
  | .load e => e.message
  | .notAPair position length =>
    s!"dictionary update sequence element #{position} has length {length}; 2 is required"

namespace Document

/-- What a record gives one after the other: the items of a list, the keys of a map, the
characters of a text. -/
def sequence : Value → Except DocumentError (List Value)
  | .list items => .ok items
  | .map entries => .ok (entries.map fun entry => entry.1.toValue)
  | .text s => .ok (s.toList.map fun c => .text (String.singleton c))
  | _ => .error (.load .wrongType)

def loadElement (v : Value) : Except DocumentError Element :=
  (Element.ofValue v).mapError .load

def loadCanonical : Value → Except DocumentError (Entries String Element)
  | .map entries => entries.mapM fun (k, v) => do
    let e ← loadElement v
    return (k.toValue.written, e)
  | _ => .error (.load .notARecord)

/-- Pairs put into a map one after the other. -/
def loadPairs (position : Nat) (acc : Entries Key Value) :
    List Value → Except DocumentError (Entries Key Value)
  | [] => .ok acc
  | item :: rest => do
    match ← sequence item with
    | [k, v] =>
      match k.toKey? with
      | some k => loadPairs (position + 1) (Key.putAlike acc k v) rest
      | none => throw (.load .wrongType)
    | other => throw (.notAPair position other.length)

/-- The parents: a map, a list of pairs, or nothing. -/
def loadParents (v : Value) : Except DocumentError (Entries Key Value) :=
  match v with
  | .map entries => .ok entries
  | v => if v.isGiven then do loadPairs 0 [] (← sequence v) else .ok []

def loadImported : Value → Except DocumentError (Entries String Int)
  | .map entries => do
    let pairs ← entries.mapM fun (k, v) => do
      let name ← k.toValue.toText.mapError .load
      let line ← v.toLine.mapError .load
      return (name, line)
    return Entries.ofList pairs
  | _ => .error (.load .notARecord)

/-- Loads a document from the map the indexer publishes. -/
def ofValue : Value → Except DocumentError Document
  | .map entries => do
    let uri ← match Entries.get? entries (.text "uri") with
      | some v => v.toText.mapError .load
      | none => throw (.load (.missingKey "uri"))
    let items ← sequence (Element.pick entries ["elems"] (.list []))
    let elements ← items.mapM loadElement
    let canonical ← loadCanonical (Element.pick entries ["canonical"] (.map []))
    let parents ← loadParents (Element.pick entries ["parents"] .null)
    let imported ← loadImported (Element.pick entries ["imported"] (.map []))
    return { ofElements uri elements canonical parents with imported }
  | _ => .error (.load .wrongType)

end Document

end PerlSymbols
