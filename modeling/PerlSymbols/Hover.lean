import PerlSymbols.Cursor
import PerlSymbols.Lookup
import PerlSymbols.Refine
import PerlSymbols.Uri.Path

/-!
# Hover texts

A hover text describes the element that a symbol stands for. It depends on the symbol, the element
and the element whose signature is shown. An empty text means that there is nothing to show.
-/

namespace PerlSymbols

namespace Hover

/-- How an editor is to read a text. -/
inductive Markup where
  | plainText
  | markdown
  deriving DecidableEq

def Markup.name : Markup → String
  | .plainText => "plaintext"
  | .markdown => "markdown"

/-- What an editor shows at a position. -/
structure Contents where
  markup : Markup
  value : String
  deriving DecidableEq

/-- The package separator before the last name of a path becomes an arrow. The last name reaches
the end, or a line end there. -/
def arrowName : List Char → List Char
  | [] => []
  | c :: rest =>
    match Text.after? [':', ':'] (c :: rest) with
    | some name =>
      let after := name.dropWhile Text.isWord
      if (name.head?.any Text.isWord) && (after.isEmpty || after == ['\n']) then
        '-' :: '>' :: name
      else c :: arrowName rest
    | none => c :: arrowName rest

/-- The text of a parameter. -/
def parameterText : Value → Except RequestError String
  | .text s => .ok s
  | _ => .error .parameterNotText

/-- In a method call the invocant is implicit. -/
def isMethodCall (symbol : String) : Bool :=
  Text.occursIn ['-', '>'] symbol.toList

/-- The name to show and the parameters in parentheses, if there are any. -/
def nameAndParameters (symbol : String) (e : Element) (refined : Option Element) :
    Except RequestError (String × String) :=
  match refined.bind Element.signature with
  | none => .ok (e.name, "")
  | some items => do
    let method := isMethodCall symbol
    let shown ← (if method then items.drop 1 else items).mapM parameterText
    let name := if method then String.ofList (arrowName e.name.toList) else e.name
    return (name, if shown.isEmpty then "" else "(" ++ ", ".intercalate shown ++ ")")

/-- Variables are described by their type, and `$self` by the package it stands in. -/
def objectText? (symbol : String) (kind : Kind) (e : Element) : Option String :=
  if !kind.isObject then none
  else if !e.typeDetail.isEmpty then some ("(object) " ++ e.typeDetail)
  else if "$self".toList.isPrefixOf symbol.toList then some ("(object) " ++ e.package)
  else none

/-- A word in parentheses and the symbol. -/
def tagged (word symbol : String) : String :=
  "(" ++ word ++ ") " ++ symbol

/-- A sub from another package, with its full name if that says more. -/
def importedText (name parameters : String) (e : Element) : String :=
  "(subroutine) " ++ name ++ parameters ++
    (if !e.typeDetail.isEmpty && e.typeDetail != e.name then " (" ++ e.typeDetail ++ ")" else "")

/-- The text of an element by its kind. -/
def kindText (symbol : String) (kind : Kind) (e : Element) (name parameters : String) :
    Except RequestError String :=
  match kind with
  | .importedSub | .inherited => .ok (importedText name parameters e)
  | .localSub => .ok ("(subroutine) " ++ name ++ parameters)
  | .localMethod | .method => .ok ("(method) " ++ name ++ parameters)
  | .localVar | .httpRoute | .outlineOnlySub => .ok ""
  | .canonical => .ok (tagged "variable" symbol)
  | .constant => .ok (tagged "constant" symbol)
  | .importedVar =>
    .ok (name ++ ": " ++ e.value ++ (if e.package.isEmpty then "" else " (" ++ e.package ++ ")"))
  | .importedHash => .ok (e.name ++ "  (" ++ e.package ++ ")")
  | .package => .ok ("(package) " ++ e.name)
  | .module => do
    let path ← (Uri.displayPath e.uri).mapError .uri
    return "(module) " ++ e.name ++ ": " ++ path
  | .label => .ok (tagged "label" symbol)
  | .classDef => .ok (tagged "class" symbol)
  | .role => .ok (tagged "role" symbol)
  | .field | .pathedField => .ok (tagged "attribute" symbol)
  | .phaser => .ok (tagged "phase" symbol)
  | .autoloadVar => .ok (tagged "autoloaded" symbol)

/-- How a tag is written in log records. -/
def tagText : Tag → String
  | .known kind => "SymbolKind." ++ kind.name
  | .raw v => v.written

end Hover

/-- The hover text of an element. The signature is formed before the kind is looked at. -/
def hoverText (symbol : String) (e : Element) (refined : Option Element) :
    Traced RequestError String := do
  let (name, parameters) ← Traced.ofExcept (Hover.nameAndParameters symbol e refined)
  match e.tag with
  | .known kind =>
    match Hover.objectText? symbol kind e with
    | some text => return text
    | none => Traced.ofExcept (Hover.kindText symbol kind e name parameters)
  | .raw v =>
    if v.isComposite then throw .compositeTag
    Traced.log .warning "unknown_symbol_kind"
      [("symbol", .text symbol), ("kind", .text v.written), ("name", .text e.name)]
    return "Unknown: " ++ symbol

/-- The hover for a position of a document, or `none` when there is nothing to show. -/
def hover (requestUri : String) (position : Position) (doc : Document) (text : String)
    (modules : ModuleMap) (loader : Option Loader) :
    Traced RequestError (Option Hover.Contents) := do
  let symbol := Cursor.symbolAt position text
  match ← resolve doc modules symbol position.line with
  | none => return none
  | some e =>
    let refined ← refine e doc requestUri loader
    let shown ← hoverText symbol e (refined.element? e)
    if shown.isEmpty then return none
    Traced.log .debug "hover_rendered"
      [("symbol", .text symbol), ("kind", .text (Hover.tagText e.tag))]
    return some { markup := .plainText, value := shown }

end PerlSymbols
