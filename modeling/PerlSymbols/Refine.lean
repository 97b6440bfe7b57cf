import PerlSymbols.Document
import PerlSymbols.Request
import PerlSymbols.Text.Search
import PerlSymbols.Trace

/-!
# The signature that describes a call

Elements found through imports or inheritance often have no parameter list of their own. The
declaration usually has one, either in the current document under the same name or in the
document that the element came from.
-/

namespace PerlSymbols

/-- Which element's signature describes a call. -/
inductive Refined where
  /-- The element is not callable. -/
  | none
  /-- The element itself. -/
  | self
  | other (e : Element)

namespace Refined

/-- The element whose signature is shown, given the element at the call. -/
def element? (r : Refined) (e : Element) : Option Element :=
  match r with
  | .none => Option.none
  | .self => some e
  | .other e' => some e'

end Refined

/-- Finds a document by URI without waiting for it. -/
abbrev Loader := String → Option Document

namespace Refine

def withSignature? (candidates : List Element) : Option Element :=
  candidates.find? fun e => e.signature.isSome

/-- The names to try in the defining document: the name itself, and with the package in front if
it has no package yet. -/
def namesToTry (e : Element) : List String :=
  if !e.package.isEmpty && !Text.occursIn [':', ':'] e.name.toList then
    [e.name, e.package ++ "::" ++ e.name]
  else [e.name]

def inDocument? (doc : Document) (names : List String) : Option Element :=
  names.findSome? fun name => withSignature? (doc.candidates name)

/-- Asks the defining document, if it is another one and can be had. -/
def fromDefining (e : Element) (requestUri : String) (loader : Option Loader) :
    Traced RequestError Refined :=
  match loader with
  | none => pure .self
  | some loader =>
    if e.uri.isEmpty || e.uri == requestUri then pure .self
    else do
      Traced.load e.uri
      match loader e.uri with
      | none =>
        Traced.log .debug "signature_source_unavailable"
          [("name", .text e.name), ("uri", .text e.uri)]
        return .self
      | some defining =>
        match inDocument? defining (namesToTry e) with
        | some e' => return .other e'
        | none => return .self

end Refine

/-- The element whose signature best describes a call of `e` in `doc`. -/
def refine (e : Element) (doc : Document) (requestUri : String) (loader : Option Loader) :
    Traced RequestError Refined :=
  match e.tag with
  | .raw v => if v.isComposite then throw .compositeTag else pure .none
  | .known kind =>
    if !kind.isCallable then pure .none
    else if e.signature.isSome then pure .self
    else match Refine.withSignature? (doc.candidates e.name) with
      | some e' => pure (.other e')
      | none => Refine.fromDefining e requestUri loader

end PerlSymbols
