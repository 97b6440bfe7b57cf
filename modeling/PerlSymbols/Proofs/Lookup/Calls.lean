import Mathlib.Data.List.TakeWhile
import PerlSymbols.Proofs.Lookup.Names

/-!
# Method calls

A method called on a variable is looked for in the package that the variable stands for: its type,
or for `SUPER` the parent of the package it belongs to. Where there is no such package, the text of
the invocant stands in for it. The package is taken as it is, whatever its characters.

A method called on a package is the sub that the package separator names. Only the main package
makes a difference: it is left out of the name, so that a sub stored under a name with `main::` in
front is not found under this name.
-/

namespace PerlSymbols.Lookup

open Cursor (Word)

/-! ## Calls on variables -/

/-- The name of a scalar variable, with its sigil. -/
def scalar (v : Word) : List Char :=
  '$' :: v.chars

/-- A method called on a scalar variable, or through `SUPER` on the parent of its package. -/
inductive Call where
  | direct (v m : Word) (notSuper : m.chars ≠ "SUPER".toList)
  | viaSuper (v m : Word)

namespace Call

def method : Call → Word
  | direct _ m _ => m
  | viaSuper _ m => m

def text : Call → List Char
  | direct v m _ => scalar v ++ '-' :: '>' :: m.chars
  | viaSuper v m => scalar v ++ '-' :: '>' :: ("SUPER".toList ++ ':' :: ':' :: m.chars)

end Call

/-- What the document has as the parent of the package in which a variable was declared last. -/
def parentEntry? (doc : Document) (v : Word) (line : Int) : Option Value :=
  match mostRecent? (doc.candidates (String.ofList (scalar v))) line with
  | some e => if e.package = "" then none else doc.parents.get? (.text e.package)
  | none => none

/-- The package that a call is looked for in: the type of the canonical variable, or the parent; the
text of the invocant where there is none. -/
inductive Call.IsIn (doc : Document) (line : Int) : Call → List Char → Prop where
  | typed {v m : Word} {h : m.chars ≠ "SUPER".toList} {e : Element}
      (hvariable : doc.canonical.get? (String.ofList (scalar v)) = some e)
      (htype : e.typeDetail ≠ "") : IsIn doc line (.direct v m h) e.typeDetail.toList
  | untyped {v m : Word} {h : m.chars ≠ "SUPER".toList}
      (hnone : ∀ e, doc.canonical.get? (String.ofList (scalar v)) = some e → e.typeDetail = "") :
      IsIn doc line (.direct v m h) (scalar v)
  | child {v m : Word} {parent : String} (hparent : parentEntry? doc v line = some (.text parent))
      (hne : parent ≠ "") : IsIn doc line (.viaSuper v m) parent.toList
  | orphan {v m : Word}
      (hnone : ∀ entry, parentEntry? doc v line = some entry → entry.isGiven = false) :
      IsIn doc line (.viaSuper v m) (scalar v ++ "->SUPER".toList)

/-- The parent is given, but it is no text. -/
def Call.HasBadParent (doc : Document) (line : Int) : Call → Prop
  | direct _ _ _ => False
  | viaSuper v _ =>
    ∃ entry, parentEntry? doc v line = some entry ∧ entry.isGiven = true ∧ ∀ s, entry ≠ .text s

section Parsing

variable (v m : Word)

theorem splitInvocant?_arrow (after : List Char) :
    splitInvocant? (scalar v ++ '-' :: '>' :: after) = some (scalar v, after) := by
  have hminus : Text.isWord '-' = false := by decide
  simp [scalar, splitInvocant?, takeWhile_word v.isWord hminus, dropWhile_word v.isWord hminus,
    v.ne_nil]

theorem superCall?_direct (hm : m.chars ≠ "SUPER".toList) :
    superCall? (scalar v ++ '-' :: '>' :: m.chars) = none := by
  unfold superCall?
  rw [splitInvocant?_arrow]
  simp only [Option.bind_eq_bind, Option.bind_some]
  cases hrest : Text.after? "SUPER".toList m.chars with
  | none => rfl
  | some rest =>
    rw [Text.after?_eq_some_iff] at hrest
    cases rest with
    | nil => exact absurd (by simpa using hrest) hm
    | cons c rest =>
      -- A longer word that begins with `SUPER`.
      have hc : Text.isWord c = true := m.isWord c (by simp [hrest])
      simp [hc]

theorem superCall?_viaSuper :
    superCall? (scalar v ++ '-' :: '>' :: ("SUPER".toList ++ ':' :: ':' :: m.chars)) =
      some (scalar v, ':' :: ':' :: m.chars) := by
  have hafter : Text.after? "SUPER".toList ("SUPER".toList ++ ':' :: ':' :: m.chars) =
      some (':' :: ':' :: m.chars) := Text.after?_eq_some_iff.mpr rfl
  have hcolon : Text.isWord ':' = false := by decide
  unfold superCall?
  rw [splitInvocant?_arrow]
  simp only [Option.bind_eq_bind, Option.bind_some, hafter]
  simp [hcolon]

theorem objectCall?_direct :
    objectCall? (scalar v ++ '-' :: '>' :: m.chars) = some (scalar v) := by
  have htake : m.chars.takeWhile Text.isWord = m.chars := List.takeWhile_eq_self_iff.mpr m.isWord
  have hdrop : m.chars.dropWhile Text.isWord = [] := List.dropWhile_eq_nil_iff.mpr m.isWord
  unfold objectCall?
  rw [splitInvocant?_arrow]
  simp only [Option.bind_eq_bind, Option.bind_some, htake, hdrop]
  simp [m.ne_nil]

theorem objectCall?_viaSuper :
    objectCall? (scalar v ++ '-' :: '>' :: ("SUPER".toList ++ ':' :: ':' :: m.chars)) = none := by
  have hdrop : ("SUPER".toList ++ ':' :: ':' :: m.chars).dropWhile Text.isWord =
      ':' :: ':' :: m.chars :=
    dropWhile_word (List.all_eq_true.mp (by decide)) (by decide) _
  unfold objectCall?
  rw [splitInvocant?_arrow]
  simp only [Option.bind_eq_bind, Option.bind_some, hdrop]
  simp

end Parsing

theorem qualified_of_super {doc : Document} {symbol q : List Char} {line : Int}
    (h : qualifySuper doc symbol line = .ok q) :
    qualified doc symbol line = .ok (normalize (qualifyObject doc symbol q)) := by
  rw [qualified, h]
  rfl

theorem qualifyObject_direct (doc : Document) (line : Int) (v m : Word)
    (hm : m.chars ≠ "SUPER".toList) :
    ∃ package, Call.IsIn doc line (.direct v m hm) package ∧
      qualifyObject doc (scalar v ++ '-' :: '>' :: m.chars) (scalar v ++ '-' :: '>' :: m.chars) =
        package ++ '-' :: '>' :: m.chars := by
  unfold qualifyObject
  rw [objectCall?_direct, splitInvocant?_arrow]
  dsimp only
  cases hvariable : doc.canonical.get? (String.ofList (scalar v)) with
  | none => exact ⟨_, .untyped (by simp [hvariable]), rfl⟩
  | some e =>
    by_cases htype : e.typeDetail = ""
    · exact ⟨_, .untyped (by simp [hvariable, htype]), by simp [htype]⟩
    · exact ⟨_, .typed hvariable htype, by simp [htype]⟩

theorem qualifySuper_viaSuper (doc : Document) (line : Int) (v m : Word) :
    qualifySuper doc (Call.viaSuper v m).text line =
      parentOf doc (String.ofList (scalar v)) line >>= fun found =>
        .ok ((found.map fun parent => subName parent.toList m).getD (Call.viaSuper v m).text) := by
  rw [Call.text, qualifySuper, superCall?_viaSuper]
  dsimp only
  cases parentOf doc (String.ofList (scalar v)) line with
  | error e => rfl
  | ok found => cases found <;> rfl

theorem parentOf_eq (doc : Document) (v : Word) (line : Int) :
    parentOf doc (String.ofList (scalar v)) line =
      match parentEntry? doc v line with
      | none => .ok none
      | some (.text parent) => .ok (if parent.isEmpty then none else some parent)
      | some entry => if entry.isGiven then .error .parentNotText else .ok none := by
  unfold parentOf parentEntry?
  cases mostRecent? (doc.candidates (String.ofList (scalar v))) line with
  | none => rfl
  | some e =>
    by_cases hpackage : e.package = ""
    · simp [hpackage]
    · cases hentry : doc.parents.get? (.text e.package) with
      | none => simp [hpackage, hentry]
      | some entry => cases entry <;> simp [hpackage, hentry]

/-- The parent is a text, or not given, or else the call fails. -/
theorem parentOf_cases (doc : Document) (v m : Word) (line : Int) :
    (∃ parent, Call.IsIn doc line (.viaSuper v m) parent.toList ∧
        parentOf doc (String.ofList (scalar v)) line = .ok (some parent)) ∨
      Call.IsIn doc line (.viaSuper v m) (scalar v ++ "->SUPER".toList) ∧
        parentOf doc (String.ofList (scalar v)) line = .ok none ∨
      Call.HasBadParent doc line (.viaSuper v m) ∧
        parentOf doc (String.ofList (scalar v)) line = .error .parentNotText := by
  rw [parentOf_eq]
  split
  · next hnone => exact Or.inr (Or.inl ⟨.orphan (by simp [hnone]), rfl⟩)
  · next parent hparent =>
    by_cases hne : parent = ""
    · refine Or.inr (Or.inl ⟨.orphan ?_, by simp [hne]⟩)
      simp [hparent, hne, Value.isGiven]
    · exact Or.inl ⟨parent, .child hparent hne, by simp [hne]⟩
  · next entry hnot hentry =>
    by_cases hgiven : entry.isGiven = true
    · exact Or.inr (Or.inr ⟨⟨entry, hentry, hgiven, hnot⟩, by simp [hgiven]⟩)
    · refine Or.inr (Or.inl ⟨.orphan ?_, by simp [hgiven]⟩)
      simpa [hentry] using hgiven

/-- The name that a call is looked for under comes from its package and its method. -/
theorem qualified_call (doc : Document) (line : Int) (call : Call) :
    (∃ package, call.IsIn doc line package ∧ qualified doc call.text line =
        .ok (normalize (subName package call.method))) ∨
      call.HasBadParent doc line ∧ qualified doc call.text line = .error .parentNotText := by
  cases call with
  | direct v m hm =>
    left
    obtain ⟨package, hin, hobject⟩ := qualifyObject_direct doc line v m hm
    have hsuper : qualifySuper doc (Call.direct v m hm).text line =
        .ok (scalar v ++ '-' :: '>' :: m.chars) := by
      rw [Call.text, qualifySuper, superCall?_direct v m hm]
    refine ⟨package, hin, ?_⟩
    rw [qualified_of_super hsuper, Call.text, hobject, normalize_arrow, Call.method]
  | viaSuper v m =>
    have hobject : ∀ q, qualifyObject doc (Call.viaSuper v m).text q = q := by
      intro q
      rw [Call.text, qualifyObject, objectCall?_viaSuper]
    have hsuper := qualifySuper_viaSuper doc line v m
    obtain ⟨parent, hin, hparent⟩ | ⟨hin, hnone⟩ | ⟨hbad, hfails⟩ := parentOf_cases doc v m line
    · refine Or.inl ⟨_, hin, ?_⟩
      rw [hparent] at hsuper
      rw [qualified_of_super hsuper, hobject]
      rfl
    · refine Or.inl ⟨_, hin, ?_⟩
      rw [hnone] at hsuper
      rw [qualified_of_super hsuper, hobject]
      simp [Call.text, Call.method, subName]
    · refine Or.inr ⟨hbad, ?_⟩
      rw [qualified, hsuper, hfails]
      rfl

theorem Call.arrow_infix (call : Call) : ['-', '>'] <:+: call.text := by
  cases call with
  | direct v m hm => exact ⟨scalar v, m.chars, by simp [text]⟩
  | viaSuper v m => exact ⟨scalar v, "SUPER".toList ++ ':' :: ':' :: m.chars, by simp [text]⟩

/-- **Method calls.** A call on a variable that has no bucket and is no module is looked for in its
package, under the name that the package and the method make. It fails exactly if it goes through
`SUPER` and the parent is given but no text. -/
theorem method_call_lookup (doc : Document) (modules : ModuleMap) (line : Int) (call : Call)
    (hbucket : doc.candidates (String.ofList call.text) = [])
    (hmodule : (modules.get? (String.ofList call.text)).getD "" = "") :
    (∃ package name found, call.IsIn doc line package ∧
      LooksFor (subName package call.method) name ∧
      Finds doc name call.method.chars found ∧
      lookup doc modules (String.ofList call.text) line = .ok found) ∨
    call.HasBadParent doc line ∧
      lookup doc modules (String.ofList call.text) line = .error .parentNotText := by
  obtain ⟨package, hin, hname⟩ | ⟨hbad, hfails⟩ := qualified_call doc line call
  · obtain ⟨found, hfinds, hlookup⟩ := lookup_finds hbucket hmodule call.arrow_infix hname
    exact Or.inl ⟨package, _, found, hin, looksFor_normalize _, hfinds, hlookup⟩
  · refine Or.inr ⟨hbad, ?_⟩
    rw [lookup_eq_qualified hbucket hmodule, hfails]
    rfl

def runMethod : Word :=
  ⟨"run".toList, by decide, List.all_eq_true.mp (by decide)⟩

/-- The call `$o->run`. -/
def objectRun : Call :=
  .direct ⟨"o".toList, by decide, List.all_eq_true.mp (by decide)⟩ runMethod (by decide)

def netRun : Element :=
  { name := "Net::run", tag := .known .method }

/-- The type of the variable is written with an arrow and in the main package. -/
def typedDocument : Document :=
  { uri := "u", buckets := [("run", [netRun, netRun]), ("Net::run", [netRun])],
    canonical := [("$o", { name := "$o", tag := .known .canonical, typeDetail := "main->Net" })] }

theorem method_call_lookup_typed :
    typedDocument.candidates (String.ofList objectRun.text) = [] ∧
    lookup typedDocument [] "$o->run" 0 = .ok [netRun] ∧
    ∃ package name found, objectRun.IsIn typedDocument 0 package ∧
      LooksFor (subName package runMethod) name ∧ Finds typedDocument name runMethod.chars found ∧
      lookup typedDocument [] (String.ofList objectRun.text) 0 = .ok found := by
  have hbucket : typedDocument.candidates (String.ofList objectRun.text) = [] := rfl
  have hlookup := method_call_lookup typedDocument [] 0 objectRun hbucket rfl
  exact ⟨hbucket, rfl, hlookup.resolve_right fun hbad => hbad.1⟩

/-! ## Calls on packages -/

/-- A package and the packages around it, from the outside in. -/
structure PackagePath where
  first : Word
  others : List Word

namespace PackagePath

def text (path : PackagePath) : List Char :=
  path.first.chars ++ path.others.flatMap fun word => ':' :: ':' :: word.chars

def sub (path : PackagePath) (m : Word) : List Char :=
  subName path.text m

/-- The call of a sub of the package as a method. -/
def call (path : PackagePath) (m : Word) : List Char :=
  path.text ++ '-' :: '>' :: m.chars

/-- After the first word comes a package separator. -/
theorem sub_eq (path : PackagePath) (m : Word) :
    ∃ name, path.sub m = path.first.chars ++ ':' :: ':' :: name := by
  unfold sub subName text
  cases path.others with
  | nil => exact ⟨m.chars, by simp⟩
  | cons word others =>
    exact ⟨word.chars ++ (others.flatMap fun word => ':' :: ':' :: word.chars) ++
      ':' :: ':' :: m.chars, by simp⟩

theorem main_prefix_iff (path : PackagePath) (m : Word) :
    "main::".toList <+: path.sub m ↔ path.first.chars = "main".toList := by
  have hcolon : Text.isWord ':' = false := by decide
  have hmain : ∀ c ∈ "main".toList, Text.isWord c = true := List.all_eq_true.mp (by decide)
  obtain ⟨name, hname⟩ := path.sub_eq m
  rw [hname]
  constructor
  · rintro ⟨rest, hrest⟩
    -- Both sides begin with a word, and the same word ends at their first colon.
    calc path.first.chars
        = (path.first.chars ++ ':' :: ':' :: name).takeWhile Text.isWord :=
          (takeWhile_word path.first.isWord hcolon _).symm
      _ = ("main".toList ++ ':' :: ':' :: rest).takeWhile Text.isWord := by
          rw [← hrest]
          rfl
      _ = "main".toList := takeWhile_word hmain hcolon _
  · intro hmain
    exact ⟨name, by rw [hmain]; rfl⟩

theorem not_mem_text {c : Char} (hword : Text.isWord c = false) (hcolon : c ≠ ':')
    (path : PackagePath) : c ∉ path.text := by
  simp only [text, List.mem_append, List.mem_flatMap, List.mem_cons, not_or, not_exists, not_and]
  refine ⟨not_mem_word hword _, ?_⟩
  intro word _
  exact ⟨hcolon, hcolon, not_mem_word hword word⟩

theorem splitInvocant?_call (path : PackagePath) (m : Word) :
    splitInvocant? (path.call m) = none := by
  obtain ⟨c, rest, hfirst⟩ := List.exists_cons_of_ne_nil path.first.ne_nil
  have hc : c ≠ '$' := by
    rintro rfl
    exact not_mem_word (by decide : Text.isWord '$' = false) path.first (by simp [hfirst])
  unfold splitInvocant? call text
  rw [hfirst]
  split
  · next heq => exact absurd (List.cons.inj heq).1 hc
  · rfl

theorem qualified_call (doc : Document) (path : PackagePath) (m : Word) (line : Int) :
    qualified doc (path.call m) line = .ok (normalize (path.sub m)) := by
  have hsplit := path.splitInvocant?_call m
  have hsuper : qualifySuper doc (path.call m) line = .ok (path.call m) := by
    simp [qualifySuper, superCall?, hsplit]
  have hobject : qualifyObject doc (path.call m) (path.call m) = path.call m := by
    simp [qualifyObject, objectCall?, hsplit]
  rw [qualified_of_super hsuper, hobject, call, normalize_arrow, sub]

theorem normalize_sub (path : PackagePath) (m : Word) :
    path.first.chars = "main".toList ∧ path.sub m = "main::".toList ++ normalize (path.sub m) ∨
      path.first.chars ≠ "main".toList ∧ normalize (path.sub m) = path.sub m := by
  have hnone : '-' ∉ path.text := path.not_mem_text (by decide) (by decide)
  have hpath : Text.replacePairs '-' '>' ':' ':' (path.sub m) = path.sub m := by
    rw [sub, replacePairs_subName, Text.replacePairs_of_not_mem hnone]
  have hcases := normalize_cases (path.sub m)
  rw [hpath, main_prefix_iff] at hcases
  obtain hmain | ⟨hfirst, heq⟩ := hcases
  · exact Or.inl ⟨(path.main_prefix_iff m).mp ⟨_, hmain.symm⟩, hmain⟩
  · exact Or.inr ⟨hfirst, heq⟩

end PackagePath

theorem resolve_call {doc : Document} {modules : ModuleMap} {line : Int} {path : PackagePath}
    {m : Word} (hcanonical : doc.canonical.get? (String.ofList (path.call m)) = none)
    (hbucket : doc.candidates (String.ofList (path.call m)) = [])
    (hmodule : (modules.get? (String.ofList (path.call m))).getD "" = "") :
    ∃ found, Finds doc (normalize (path.sub m)) m.chars found ∧
      (resolve doc modules (String.ofList (path.call m)) line).outcome = .ok (single? found) := by
  have hne : String.ofList (path.call m) ≠ "" := by
    simp [PackagePath.call]
  have harrow : ['-', '>'] <:+: path.call m := ⟨path.text, m.chars, by simp [PackagePath.call]⟩
  obtain ⟨found, hfinds, hlookup⟩ :=
    lookup_finds hbucket hmodule harrow (path.qualified_call doc m line)
  exact ⟨found, hfinds, resolve_of_lookup hne hcanonical hlookup⟩

/-- **Arrow and package separator name the same sub.** A method called on a package is the first
element of the bucket of the sub. For a package in the main package, the sub goes by the name
without it, and is looked for under this name as the method of a variable is. -/
theorem arrow_names_sub (doc : Document) (modules : ModuleMap) (line : Int) (path : PackagePath)
    (m : Word) (hcanonical : doc.canonical.get? (String.ofList (path.call m)) = none)
    (hbucket : doc.candidates (String.ofList (path.call m)) = [])
    (hmodule : (modules.get? (String.ofList (path.call m))).getD "" = "") :
    (path.first.chars ≠ "main".toList → ∀ e rest,
      doc.candidates (String.ofList (path.sub m)) = e :: rest →
      (resolve doc modules (String.ofList (path.call m)) line).outcome = .ok (some e)) ∧
    (path.first.chars = "main".toList → ∃ name found, path.sub m = "main::".toList ++ name ∧
      Finds doc name m.chars found ∧
      (resolve doc modules (String.ofList (path.call m)) line).outcome = .ok (single? found)) := by
  obtain ⟨found, hfinds, hresolve⟩ := resolve_call hcanonical hbucket hmodule
  rw [hresolve]
  obtain ⟨hmain, hsub⟩ | ⟨hnot, hsame⟩ := path.normalize_sub m
  · exact ⟨fun hnot => absurd hmain hnot, fun _ => ⟨_, found, hsub, hfinds, rfl⟩⟩
  · refine ⟨?_, fun hmain => absurd hmain hnot⟩
    intro _ e rest hsub
    rw [hsame] at hfinds
    cases hfinds with
    | named hname =>
      rw [hname] at hsub
      cases hsub
      rfl
    | bare hname _ _ => simp [hname] at hsub
    | anywhere hname _ _ => simp [hname] at hsub
    | nothing hname _ => simp [hname] at hsub

/-- The package `Net::Ping`. -/
def pingPackage : PackagePath :=
  ⟨⟨"Net".toList, by decide, List.all_eq_true.mp (by decide)⟩,
    [⟨"Ping".toList, by decide, List.all_eq_true.mp (by decide)⟩]⟩

def pingRun : Element :=
  { name := "Net::Ping::run", tag := .known .localSub }

/-- The sub is found also where other packages have one of its name. -/
def pingDocument : Document :=
  { uri := "u", buckets := [("run", [netRun]), ("Net::Ping::run", [pingRun, netRun])] }

theorem arrow_names_sub_nested :
    pingDocument.candidates (String.ofList (pingPackage.call runMethod)) = [] ∧
    pingDocument.candidates (String.ofList (pingPackage.sub runMethod)) = [pingRun, netRun] ∧
    (resolve pingDocument [] (String.ofList (pingPackage.call runMethod)) 0).outcome =
      .ok (some pingRun) := by
  have hbucket : pingDocument.candidates (String.ofList (pingPackage.call runMethod)) = [] := rfl
  have hsub : pingDocument.candidates (String.ofList (pingPackage.sub runMethod)) =
      [pingRun, netRun] := rfl
  have hmain : pingPackage.first.chars ≠ "main".toList := by decide
  have harrow := arrow_names_sub pingDocument [] 0 pingPackage runMethod rfl hbucket rfl
  exact ⟨hbucket, hsub, harrow.1 hmain _ _ hsub⟩

/-- The main package. -/
def mainPackage : PackagePath :=
  ⟨⟨"main".toList, by decide, List.all_eq_true.mp (by decide)⟩, []⟩

def mainRun : Element :=
  { name := "main::run", tag := .known .localSub }

def mainDocument : Document :=
  { uri := "u", buckets := [("main::run", [mainRun])] }

/-- The main package is left out of the name, and so the sub that is stored with it is not found. -/
theorem arrow_misses_main :
    mainDocument.canonical.get? (String.ofList (mainPackage.call runMethod)) = none ∧
    mainDocument.candidates (String.ofList (mainPackage.call runMethod)) = [] ∧
    mainDocument.candidates (String.ofList (mainPackage.sub runMethod)) = [mainRun] ∧
    (resolve mainDocument [] (String.ofList (mainPackage.call runMethod)) 0).outcome =
      .ok none :=
  ⟨rfl, rfl, rfl, rfl⟩

end PerlSymbols.Lookup
