import PerlSymbols.Value

/-!
# Kinds of elements

The indexer tags every element with a one-character code. The set of codes is closed; a tag that
is no code is kept as it came, so that the document loads and only the rendering flags it.
-/

namespace PerlSymbols

inductive Kind where
  | module
  | package
  | classDef
  | role
  | importedSub
  | inherited
  /-- An attribute of a class. -/
  | field
  | pathedField
  | localSub
  /-- Taken to be an instance method. -/
  | localMethod
  | method
  | localVar
  | constant
  | label
  /-- A phase block such as `BEGIN`. -/
  | phaser
  | canonical
  | importedVar
  | importedHash
  | httpRoute
  | outlineOnlySub
  | autoloadVar
  deriving DecidableEq, Inhabited

namespace Kind

def all : List Kind :=
  [.module, .package, .classDef, .role, .importedSub, .inherited, .field, .pathedField, .localSub,
    .localMethod, .method, .localVar, .constant, .label, .phaser, .canonical, .importedVar,
    .importedHash, .httpRoute, .outlineOnlySub, .autoloadVar]

def code : Kind → String
  | .module => "m"
  | .package => "p"
  | .classDef => "a"
  | .role => "b"
  | .importedSub => "t"
  | .inherited => "i"
  | .field => "f"
  | .pathedField => "d"
  | .localSub => "s"
  | .localMethod => "o"
  | .method => "x"
  | .localVar => "v"
  | .constant => "n"
  | .label => "l"
  | .phaser => "e"
  | .canonical => "1"
  | .importedVar => "c"
  | .importedHash => "h"
  | .httpRoute => "g"
  | .outlineOnlySub => "j"
  | .autoloadVar => "_"

/-- The name of the kind in log records. -/
def name : Kind → String
  | .module => "MODULE"
  | .package => "PACKAGE"
  | .classDef => "CLASS"
  | .role => "ROLE"
  | .importedSub => "IMPORTED_SUB"
  | .inherited => "INHERITED"
  | .field => "FIELD"
  | .pathedField => "PATHED_FIELD"
  | .localSub => "LOCAL_SUB"
  | .localMethod => "LOCAL_METHOD"
  | .method => "METHOD"
  | .localVar => "LOCAL_VAR"
  | .constant => "CONSTANT"
  | .label => "LABEL"
  | .phaser => "PHASER"
  | .canonical => "CANONICAL"
  | .importedVar => "IMPORTED_VAR"
  | .importedHash => "IMPORTED_HASH"
  | .httpRoute => "HTTP_ROUTE"
  | .outlineOnlySub => "OUTLINE_ONLY_SUB"
  | .autoloadVar => "AUTOLOAD_VAR"

/-- The kind with a given code. -/
def ofCode? (s : String) : Option Kind :=
  all.find? fun k => k.code == s

/-- The signature can be refined at a call site. -/
def isCallable : Kind → Bool
  | .localSub | .importedSub | .inherited | .localMethod | .method => true
  | _ => false

/-- Described by the inferred object type when one is known. -/
def isObject : Kind → Bool
  | .localVar | .importedVar | .canonical => true
  | _ => false

/-- No hover text of its own. -/
def isSilent : Kind → Bool
  | .localVar | .httpRoute | .outlineOnlySub => true
  | _ => false

/-- Listed among the symbols of a document. -/
def isOutlined : Kind → Bool
  | .localSub | .package => true
  | _ => false

theorem ofCode?_eq_some {s : String} {kind : Kind} : ofCode? s = some kind ↔ kind.code = s := by
  constructor
  · intro h
    simpa [ofCode?] using List.find?_some h
  · rintro rfl
    cases kind <;> rfl

end Kind

/-- The tag of an element: a kind, or what stood in its place. -/
inductive Tag where
  | known (kind : Kind)
  | raw (v : Value)

namespace Tag

def ofValue : Value → Tag
  | .text s =>
    match Kind.ofCode? s with
    | some k => .known k
    | none => .raw (.text s)
  | v => .raw v

/-- The code, or the value kept in its place. -/
def toValue : Tag → Value
  | .known k => .text k.code
  | .raw v => v

def isKnown : Tag → Bool
  | .known _ => true
  | .raw _ => false

/-- A list or a map cannot be looked up among the kinds. -/
def isComposite : Tag → Bool
  | .known _ => false
  | .raw v => v.isComposite

def kind? : Tag → Option Kind
  | .known k => some k
  | .raw _ => none

theorem ofValue_toValue_known (k : Kind) : ofValue (known k).toValue = .known k := by
  cases k <;> rfl

end Tag

end PerlSymbols
