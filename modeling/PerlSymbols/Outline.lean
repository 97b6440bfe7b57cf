import PerlSymbols.Document
import PerlSymbols.Request

/-!
# Symbol listings

The outline of a document lists its subs and packages; the outline of a workspace lists its
modules.
-/

namespace PerlSymbols

/-- What a listed symbol is for the editor. -/
inductive SymbolSort where
  | package
  | function
  | module
  deriving DecidableEq

structure Symbol where
  name : String
  sort : SymbolSort
  location : Location
  deriving DecidableEq

namespace Outline

/-- The entry of a bucket: elements of one name describe one sub or package, so the first of them
speaks for all. -/
def entry? (uri name : String) (bucket : List Element) : Except RequestError (Option Symbol) :=
  match bucket with
  | [] => .ok none
  | e :: _ =>
    match e.tag with
    | .raw v => if v.isComposite then .error .compositeTag else .ok none
    | .known kind =>
      if !kind.isOutlined then .ok none
      else do
        let location ← (Location.ofLine uri (.int e.line)).mapError .position
        let sort := if kind = .package then SymbolSort.package else .function
        return some { name, sort, location }

def ofBuckets (uri : String) : Entries String (List Element) → Except RequestError (List Symbol)
  | [] => .ok []
  | (name, bucket) :: rest => do
    let entry ← entry? uri name bucket
    let others ← ofBuckets uri rest
    return entry.toList ++ others

/-- Subs and packages of a document, in order of discovery, located at the URI asked for. -/
def ofDocument (uri : String) (doc : Document) : Except RequestError (List Symbol) :=
  ofBuckets uri doc.buckets

/-- The line on which every module is located. -/
def moduleLine : Value := .int 0

/-- Every known module. The query does not narrow the list, since editors match by themselves. -/
def ofModules (_query : String) (modules : ModuleMap) : Except RequestError (List Symbol) :=
  modules.mapM fun (name, uri) => do
    let location ← (Location.ofLine uri moduleLine).mapError .position
    return { name, sort := .module, location }

end Outline

end PerlSymbols
