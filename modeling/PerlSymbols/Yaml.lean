import PerlSymbols.Yaml.Node
import PerlSymbols.Yaml.Plain

/-!
# Settings texts

A settings text holds one document. Maps keep the order of their keys, and the last value of a
repeated key counts. Under the merge key stands a map, or a list of maps, whose entries are put in
front of the own ones. Lists and maps are read level by level, so of several faults the one nearest
to the root is found.
-/

namespace PerlSymbols.Yaml

def standardTag (name : String) : String :=
  "tag:yaml.org,2002:" ++ name

/-- The meaning that a tag gives to a scalar; `none` for a tag that is not known. -/
def meaningOfTag? (tag : String) : Option Meaning :=
  [("null", Meaning.null), ("bool", .truth), ("int", .int), ("float", .float),
    ("timestamp", .stamp), ("str", .text), ("merge", .merge), ("value", .self)].findSome?
    fun (name, m) => if tag == standardTag name then some m else none

def scalarMeaning? (tag : Option String) (text : String) (plain : Bool) : Option Meaning :=
  match tag with
  | some tag => meaningOfTag? tag
  | none => some (if plain then meaningOf text else .text)

def scalarValue (meaning : Meaning) (text : String) : Except Failure Value :=
  match meaning with
  | .null => .ok .null
  | .truth => return .bool (← readTruth text)
  | .int => return .int (← readInt text)
  | .float => return .float (← readFloat text)
  | .stamp => return .stamp (← readDate text)
  | .text => .ok (.text text)
  | .merge | .self => .error .malformed

/-! ## Faults -/

/-- A failure, and how many levels below the node it is found. -/
structure Fault where
  level : Nat
  failure : Failure

abbrev Reading (α : Type) := Except Fault α

namespace Reading

variable {α β γ : Type}

def now (x : Except Failure α) : Reading α :=
  x.mapError (Fault.mk 0)

def both (f : α → β → γ) (x : Reading α) (y : Reading β) : Reading γ :=
  match x, y with
  | .ok a, .ok b => .ok (f a b)
  | .error e, .error e' => .error (if e'.level < e.level then e' else e)
  | .error e, .ok _ | .ok _, .error e => .error e

def below (x : Reading α) : Reading α :=
  x.mapError fun e => { e with level := e.level + 1 }

end Reading

/-- The tags of lists and maps; under one of another kind the contents cannot be read. -/
def collectionTags : List String :=
  ["seq", "map", "set", "omap", "pairs"]

def scalarTags : List String :=
  ["null", "bool", "int", "float", "timestamp", "str", "binary"]

/-- The fault of a tag that is not the one of its node; under a `foreign` tag there would be a value
of a kind that has no form here. -/
def tagFault (foreign : List String) (tag : String) : Fault :=
  let isOneOf (names : List String) := names.any fun name => tag == standardTag name
  if isOneOf foreign then ⟨0, .beyond⟩
  else if isOneOf collectionTags then ⟨1, .malformed⟩
  else ⟨0, .malformed⟩

/-- The fault of the tag of a list or map whose own tag has a given name. -/
def ownTagFault? (own : String) (foreign : List String) (tag : Option String) : Option Fault :=
  match tag with
  | none => none
  | some tag => if tag == standardTag own then none else some (tagFault foreign tag)

namespace Node

/-- Is the node the key under which maps are merged in? -/
def isMergeKey : Node → Bool
  | .scalar tag text plain => scalarMeaning? tag text plain == some .merge
  | _ => false

/-- Is the node the key for a value as such? It is read as text. -/
def isSelfKey : Node → Bool
  | .scalar tag text plain => scalarMeaning? tag text plain == some .self
  | _ => false

def asText : Node → Value
  | .scalar _ text _ => .text text
  | _ => .null

/-- The key that a value makes. A list or map makes none, whatever is wrong inside it. -/
def keyOf : Reading Value → Reading Key
  | .ok v =>
    match v.toKey? with
    | some k => .ok k
    | none => .error ⟨0, .malformed⟩
  | .error e => .error (if e.level == 0 then e else ⟨0, .malformed⟩)

/-- Entries put into a map one after the other. -/
def collect (pairs : List (Key × Value)) : Value :=
  .map (pairs.foldl (fun m (k, v) => Key.putAlike m k v) [])

/-- The tags under which a map would be no map; a scalar is taken from the key for a value as
such. -/
def foreignTags (entries : List (Node × Node)) : List String :=
  "set" :: if entries.any (·.1.isSelfKey) then scalarTags else []

mutual

/-- Under the merge keys of a map, and of all maps merged in, there are maps or lists of maps. -/
def mergesFit : List (Node × Node) → Bool
  | [] => true
  | (k, v) :: rest => (!k.isMergeKey || mergeable v) && mergesFit rest

def mergeable : Node → Bool
  | .map _ entries => mergesFit entries
  | .list _ items => mergeableItems items
  | .enclosing => true
  | .scalar .. => false

def mergeableItems : List Node → Bool
  | [] => true
  | .map _ entries :: rest => mergesFit entries && mergeableItems rest
  | .enclosing :: rest => mergeableItems rest
  | _ :: _ => false

end

mutual

def toValue : Node → Reading Value
  | .scalar tag text plain =>
    match scalarMeaning? tag text plain with
    | some meaning => .now (scalarValue meaning text)
    | none => .error (tagFault ["binary"] (tag.getD ""))
  | .list tag items =>
    match ownTagFault? "seq" ["omap", "pairs"] tag with
    | some e => .error e
    | none => .below ((toValues items).map .list)
  | .map tag entries =>
    match ownTagFault? "map" (foreignTags entries) tag with
    | some e => .error e
    | none =>
      if mergesFit entries then
        let (merged, own) := toPairs entries
        .below (.both (fun merged own => collect (merged ++ own)) merged own)
      else .error ⟨1, .malformed⟩
  | .enclosing => .error ⟨0, .beyond⟩

def toValues : List Node → Reading (List Value)
  | [] => .ok []
  | item :: rest => .both List.cons (toValue item) (toValues rest)

/-- The entries that are merged in, and the own ones. -/
def toPairs : List (Node × Node) → Reading (List (Key × Value)) × Reading (List (Key × Value))
  | [] => (.ok [], .ok [])
  | (k, v) :: rest =>
    let (merged, own) := toPairs rest
    if k.isMergeKey then (.both List.append (mergedFrom v) merged, own)
    else
      let key := keyOf (if k.isSelfKey then .ok k.asText else toValue k)
      (merged, .both List.cons (.both Prod.mk key (toValue v)) own)

/-- What a map, or a list of maps, has to be merged in. -/
def mergedFrom : Node → Reading (List (Key × Value))
  | .map _ entries =>
    let (merged, own) := toPairs entries
    .both List.append merged own
  | .list _ items => mergedFromItems items
  | .scalar .. => .error ⟨0, .malformed⟩
  | .enclosing => .error ⟨0, .beyond⟩

/-- Of two maps in a list the first one counts, so its entries are put last. -/
def mergedFromItems : List Node → Reading (List (Key × Value))
  | [] => .ok []
  | .map _ entries :: rest =>
    let (merged, own) := toPairs entries
    .both List.append (mergedFromItems rest) (.both List.append merged own)
  | .enclosing :: _ => .error ⟨0, .beyond⟩
  | _ :: _ => .error ⟨0, .malformed⟩

end

end Node

/-- The value of a settings text; a text without a document is null. -/
def read (text : String) : Except Failure Value := do
  let (tokens, failure) := tokensOf text
  match ← Node.ofTokens tokens (failure.getD .malformed) with
  | some node => node.toValue.mapError Fault.failure
  | none => return .null

end PerlSymbols.Yaml
