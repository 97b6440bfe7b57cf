import PerlSymbols.Entries
import PerlSymbols.Yaml.Tokens

/-!
# Nodes of a settings text

A node is a scalar, a list or a map, with the tag that stands in front of it. An alias is the node
with that anchor, which must have begun before.
-/

namespace PerlSymbols.Yaml

inductive Node where
  /-- A plain scalar, or one that is read like one, can mean more than its text. -/
  | scalar (tag : Option String) (text : String) (plain : Bool)
  | list (tag : Option String) (items : List Node)
  | map (tag : Option String) (entries : List (Node × Node))
  /-- A list or map again that the node is inside of. -/
  | enclosing

/-- What is left out is a plain scalar without text. -/
def Node.empty : Node := .scalar none "" true

/-- The reading of a row of tokens so far. -/
structure Reader where
  tokens : List Token
  /-- Why the tokens end, where they end too early. -/
  failure : Failure := .malformed
  anchors : Entries String Node := []
  /-- The anchors of the nodes that have begun and not ended. -/
  openAnchors : List String := []
  /-- What the handles of tags stand for. -/
  handles : Entries String String := []

namespace Reader

def peek (r : Reader) : Except Failure Token :=
  match r.tokens with
  | t :: _ => .ok t
  | [] => .error r.failure

def advance (r : Reader) : Reader :=
  { r with tokens := r.tokens.tail }

def sees (r : Reader) (ts : List Token) : Except Failure Bool := do
  return ts.contains (← r.peek)

def expect (r : Reader) (t : Token) : Except Failure Reader := do
  if (← r.peek) == t then return r.advance else throw .malformed

/-! ## What stands in front of a node -/

/-- An anchor and a tag, in either order. -/
structure Properties where
  anchor : Option String := none
  tag : Option String := none

def tagText (r : Reader) (handle : Option String) (suffix : String) : Except Failure String :=
  match handle with
  | none => .ok suffix
  | some name =>
    match r.handles.get? name with
    | some target => .ok (target ++ suffix)
    | none => .error .malformed

def properties (r : Reader) : Except Failure (Properties × Reader) := do
  match ← r.peek with
  | .anchor name =>
    let r := r.advance
    match ← r.peek with
    | .tag handle suffix => return (⟨some name, some (← r.tagText handle suffix)⟩, r.advance)
    | _ => return (⟨some name, none⟩, r)
  | .tag handle suffix =>
    let tag ← r.tagText handle suffix
    let r := r.advance
    match ← r.peek with
    | .anchor name => return (⟨some name, some tag⟩, r.advance)
    | _ => return (⟨none, some tag⟩, r)
  | _ => return ({}, r)

/-- Begins the node of an anchor, which must be new. -/
def openAnchor (r : Reader) (anchor : Option String) : Except Failure Reader :=
  match anchor with
  | none => .ok r
  | some name =>
    if r.anchors.contains name || r.openAnchors.contains name then .error .malformed
    else .ok { r with openAnchors := name :: r.openAnchors }

/-- Keeps a node that has ended under its anchor. -/
def closeAnchor (r : Reader) (anchor : Option String) (node : Node) : Reader :=
  match anchor with
  | none => r
  | some name =>
    { r with anchors := r.anchors.put name node, openAnchors := r.openAnchors.erase name }

def aliased (r : Reader) (name : String) : Except Failure Node :=
  match r.anchors.get? name with
  | some node => .ok node
  | none => if r.openAnchors.contains name then .ok .enclosing else .error .malformed

/-! ## Nodes -/

/-- Where a node stands. -/
inductive Setting where
  /-- Inside brackets. -/
  | flow
  | block
  /-- In an entry of a block map, where a list need not be indented. -/
  | entry
  deriving DecidableEq

mutual

def node (setting : Setting) : Nat → Reader → Except Failure (Node × Reader)
  | 0, _ => .error .tooDeep
  | fuel + 1, r => do
    match ← r.peek with
    | .alias name => return (← r.aliased name, r.advance)
    | _ =>
      let (props, r) ← r.properties
      let next ← r.peek
      let r ← r.openAnchor props.anchor
      let tag := if props.tag == some "!" then none else props.tag
      let (node, r) ← match next with
        | .scalar text plain =>
          pure (Node.scalar tag text (plain || props.tag == some "!"), r.advance)
        | .flowListStart => do
          let (items, r) ← flowItems true fuel r.advance
          pure (.list tag items, r)
        | .flowMapStart => do
          let (entries, r) ← flowEntries true fuel r.advance
          pure (.map tag entries, r)
        | t =>
          if setting == .entry && t == .blockEntry then do
            let (items, r) ← flushItems fuel r
            pure (.list tag items, r)
          else if setting != .flow && t == .blockListStart then do
            let (items, r) ← blockItems fuel r.advance
            pure (.list tag items, r)
          else if setting != .flow && t == .blockMapStart then do
            let (entries, r) ← blockEntries fuel r.advance
            pure (.map tag entries, r)
          else if props.anchor.isSome || props.tag.isSome then
            pure (.scalar tag "" true, r)
          else throw .malformed
      return (node, r.closeAnchor props.anchor node)

/-- A node, or nothing in front of one of the tokens that may follow. -/
def nodeBefore (stops : List Token) (setting : Setting) : Nat → Reader →
    Except Failure (Node × Reader)
  | 0, _ => .error .tooDeep
  | fuel + 1, r => do
    if ← r.sees stops then return (.empty, r) else node setting fuel r

/-- The items of an indented block list. -/
def blockItems : Nat → Reader → Except Failure (List Node × Reader)
  | 0, _ => .error .tooDeep
  | fuel + 1, r => do
    if ← r.sees [.blockEntry] then
      let (item, r) ← nodeBefore [.blockEntry, .blockEnd] .block fuel r.advance
      let (items, r) ← blockItems fuel r
      return (item :: items, r)
    else return ([], ← r.expect .blockEnd)

/-- The items of a list that is not indented; nothing marks its end. -/
def flushItems : Nat → Reader → Except Failure (List Node × Reader)
  | 0, _ => .error .tooDeep
  | fuel + 1, r => do
    if ← r.sees [.blockEntry] then
      let (item, r) ← nodeBefore [.blockEntry, .key, .value, .blockEnd] .block fuel r.advance
      let (items, r) ← flushItems fuel r
      return (item :: items, r)
    else return ([], r)

def blockEntries : Nat → Reader → Except Failure (List (Node × Node) × Reader)
  | 0, _ => .error .tooDeep
  | fuel + 1, r => do
    let stops : List Token := [.key, .value, .blockEnd]
    if ← r.sees [.key] then
      let (k, r) ← nodeBefore stops .entry fuel r.advance
      let (v, r) ← if ← r.sees [.value] then nodeBefore stops .entry fuel r.advance
        else pure (.empty, r)
      let (entries, r) ← blockEntries fuel r
      return ((k, v) :: entries, r)
    else return ([], ← r.expect .blockEnd)

/-- A key with its value, inside brackets that `close` ends. -/
def flowPair (close : Token) : Nat → Reader → Except Failure ((Node × Node) × Reader)
  | 0, _ => .error .tooDeep
  | fuel + 1, r => do
    let (k, r) ← nodeBefore [.value, .flowEntry, close] .flow fuel r
    if ← r.sees [.value] then
      let (v, r) ← nodeBefore [.flowEntry, close] .flow fuel r.advance
      return ((k, v), r)
    else return ((k, .empty), r)

/-- The items of a list in brackets. A key with a value is a map of one entry. -/
def flowItems (first : Bool) : Nat → Reader → Except Failure (List Node × Reader)
  | 0, _ => .error .tooDeep
  | fuel + 1, r => do
    if ← r.sees [.flowListEnd] then return ([], r.advance)
    let r ← if first then pure r else r.expect .flowEntry
    if ← r.sees [.flowListEnd] then return ([], r.advance)
    let (item, r) ← if ← r.sees [.key] then do
        let (pair, r) ← flowPair .flowListEnd fuel r.advance
        pure (Node.map none [pair], r)
      else node .flow fuel r
    let (items, r) ← flowItems false fuel r
    return (item :: items, r)

def flowEntries (first : Bool) : Nat → Reader → Except Failure (List (Node × Node) × Reader)
  | 0, _ => .error .tooDeep
  | fuel + 1, r => do
    if ← r.sees [.flowMapEnd] then return ([], r.advance)
    let r ← if first then pure r else r.expect .flowEntry
    if ← r.sees [.flowMapEnd] then return ([], r.advance)
    let (pair, r) ← if ← r.sees [.key] then flowPair .flowMapEnd fuel r.advance
      else do
        let (k, r) ← node .flow fuel r
        pure ((k, Node.empty), r)
    let (entries, r) ← flowEntries false fuel r
    return (pair :: entries, r)

end

/-! ## Documents -/

/-- What the handles stand for unless a directive says otherwise. -/
def standardHandles : Entries String String :=
  [("!", "!"), ("!!", "tag:yaml.org,2002:")]

/-- The directives in front of a document: at most one version, which must be of the first major
version, and at most one target for each handle. -/
def directives : List Token → Bool → Entries String String →
    Except Failure (Entries String String × List Token)
  | .directive d :: rest, versionSeen, handles =>
    match d with
    | .version major _ =>
      if versionSeen || major != 1 then .error .malformed
      else directives rest true handles
    | .handle name target =>
      if handles.contains name then .error .malformed
      else directives rest versionSeen (handles.put name target)
    | .other => directives rest versionSeen handles
  | tokens, _, handles => .ok (handles, tokens)

/-- The root of a document after its start. -/
def root (r : Reader) : Except Failure (Node × Reader) := do
  match ← r.peek with
  | .directive _ | .documentStart | .documentEnd | .streamEnd => return (.empty, r)
  | _ => node .block (3 * r.tokens.length + 3) r

/-- After a document nothing may follow but marks of its end. -/
def finish (r : Reader) : Except Failure Unit := do
  match r.tokens.dropWhile (· == .documentEnd) with
  | [.streamEnd] => return ()
  | [] => throw r.failure
  | _ => throw .malformed

end Reader

/-- The one document of a text, and `none` if it has none. -/
def Node.ofTokens (tokens : List Token) (failure : Failure) : Except Failure (Option Node) := do
  let r : Reader := { tokens, failure, handles := Reader.standardHandles }
  match ← r.peek with
  | .streamEnd => return none
  | .directive _ | .documentStart =>
    let (handles, rest) ← Reader.directives tokens false []
    let handles := Reader.standardHandles.foldl
      (fun hs h => if Entries.contains hs h.1 then hs else hs.put h.1 h.2) handles
    let r ← { r with tokens := rest, handles }.expect .documentStart
    let (node, r) ← r.root
    r.finish
    return some node
  | _ =>
    let (node, r) ← r.node .block (3 * tokens.length + 3)
    r.finish
    return some node

end PerlSymbols.Yaml
