import PerlSymbols.Proofs.Cursor.Chains
import PerlSymbols.Proofs.Session.Hovering
import PerlSymbols.Proofs.Text.Search

/-!
# Names of methods

A method is looked for under a name: the package it is called in, a package separator, and its own
name. Arrows in the package become separators first, and the main package is left out. Where the
name has no bucket, the method is looked for by its own name, and then in any package.
-/

namespace PerlSymbols

open Cursor (Word)

namespace Lookup

/-! ## The name that is looked for -/

/-- The name of a method in a package. -/
def subName (package : List Char) (method : Word) : List Char :=
  package ++ ':' :: ':' :: method.chars

/-- The name under which a text is looked for: each arrow becomes a package separator, and a main
package in front is dropped. -/
def LooksFor (text name : List Char) : Prop :=
  ∃ path, Text.Replaces ['-', '>'] [':', ':'] text path ∧
    (path = "main::".toList ++ name ∨ ¬ "main::".toList <+: path ∧ name = path)

theorem normalize_cases (text : List Char) :
    Text.replacePairs '-' '>' ':' ':' text = "main::".toList ++ normalize text ∨
      ¬ "main::".toList <+: Text.replacePairs '-' '>' ':' ':' text ∧
        normalize text = Text.replacePairs '-' '>' ':' ':' text := by
  unfold normalize
  dsimp only
  cases hmain : Text.after? "main::".toList (Text.replacePairs '-' '>' ':' ':' text) with
  | some name => exact Or.inl (Text.after?_eq_some_iff.mp hmain)
  | none => exact Or.inr ⟨Text.after?_eq_none_iff.mp hmain, rfl⟩

theorem looksFor_normalize (text : List Char) : LooksFor text (normalize text) :=
  ⟨_, Text.replaces_replacePairs '-' '>' ':' ':' text, normalize_cases text⟩

theorem not_mem_word {c : Char} (hc : Text.isWord c = false) (word : Word) : c ∉ word.chars := by
  intro hmem
  simpa [hc] using word.isWord c hmem

section Word

variable {word : List Char} (hword : ∀ c ∈ word, Text.isWord c = true) {c : Char}
  (hc : Text.isWord c = false) (rest : List Char)

include hword hc

theorem takeWhile_word : (word ++ c :: rest).takeWhile Text.isWord = word := by
  rw [List.takeWhile_append_of_pos hword, List.takeWhile_cons_of_neg (by simp [hc]),
    List.append_nil]

theorem dropWhile_word : (word ++ c :: rest).dropWhile Text.isWord = c :: rest := by
  rw [List.dropWhile_append_of_pos hword, List.dropWhile_cons_of_neg (by simp [hc])]

end Word

theorem replacePairs_subName (package : List Char) (method : Word) :
    Text.replacePairs '-' '>' ':' ':' (subName package method) =
      subName (Text.replacePairs '-' '>' ':' ':' package) method := by
  have hnone : '-' ∉ ':' :: ':' :: method.chars := by
    simpa using not_mem_word (by decide) method
  rw [subName, Text.replacePairs_append (by simp), Text.replacePairs_of_not_mem hnone, subName]

theorem normalize_arrow (package : List Char) (method : Word) :
    normalize (package ++ '-' :: '>' :: method.chars) =
      normalize (subName package method) := by
  have harrow : Text.replacePairs '-' '>' ':' ':' (package ++ '-' :: '>' :: method.chars) =
      subName (Text.replacePairs '-' '>' ':' ':' package) method := by
    rw [Text.replacePairs_append (by simp), Text.replacePairs, if_pos ⟨rfl, rfl⟩,
      Text.replacePairs_of_not_mem (not_mem_word (by decide) method), subName]
  unfold normalize
  rw [harrow, replacePairs_subName]

/-! ## The last part of a name -/

/-- A method is the last part of a name: the whole of it, or what follows a package separator. -/
def IsLastPart (name method : List Char) : Prop :=
  name = method ∨ ':' :: ':' :: method <:+ name

instance (name method : List Char) : Decidable (IsLastPart name method) :=
  inferInstanceAs (Decidable (_ ∨ _))

theorem not_infix_word (word : Word) : ¬ [':', ':'] <:+: ':' :: word.chars := by
  have hnone : ':' ∉ word.chars := not_mem_word (by decide) word
  rintro ⟨front, back, h⟩
  cases front with
  | nil =>
    have htail : ':' :: back = word.chars := (List.cons.inj h).2
    exact hnone (by simp [← htail])
  | cons c front =>
    have htail : front ++ [':', ':'] ++ back = word.chars := (List.cons.inj h).2
    exact hnone (by simp [← htail])

theorem baseName_subName (front : List Char) (method : Word) :
    baseName (subName front method) = method.chars :=
  Text.lastPart_append (by simp) (not_infix_word method) front

theorem baseName_eq_iff (name : List Char) (method : Word) :
    baseName name = method.chars ↔ IsLastPart name method.chars := by
  obtain ⟨hnot, heq⟩ | ⟨front, hfront⟩ := Text.lastPart_cases [':', ':'] name
  · have hbase : baseName name = name := heq
    rw [hbase]
    refine ⟨Or.inl, ?_⟩
    rintro (heq | hsuffix)
    · exact heq
    · obtain ⟨front, rfl⟩ := hsuffix
      exact absurd ⟨front, method.chars, by simp⟩ hnot
  · constructor
    · intro h
      have hlast : Text.lastPart [':', ':'] name = method.chars := h
      exact Or.inr ⟨front, by rw [hfront, hlast]; simp⟩
    · rintro (rfl | ⟨front, rfl⟩)
      · refine absurd ?_ (not_mem_word (by decide : Text.isWord ':' = false) method)
        rw [hfront]
        simp
      · exact baseName_subName front method

/-- A name that is looked for ends in the method, unless it has no package separator at all. -/
theorem baseName_normalize {package : List Char} {method : Word}
    (h : [':', ':'] <:+: normalize (subName package method)) :
    baseName (normalize (subName package method)) = method.chars := by
  have hsuffix : normalize (subName package method) <:+
      subName (Text.replacePairs '-' '>' ':' ':' package) method := by
    rw [← replacePairs_subName]
    obtain hmain | ⟨-, heq⟩ := normalize_cases (subName package method)
    · exact ⟨_, hmain.symm⟩
    · rw [heq]
  generalize normalize (subName package method) = name at *
  obtain hlong | hshort := List.suffix_or_suffix_of_suffix (List.suffix_append _ _) hsuffix
  · obtain ⟨front, rfl⟩ := hlong
    exact baseName_subName front method
  · -- Of the suffixes of `::m`, only the whole has a package separator.
    obtain rfl | hshort := List.suffix_cons_iff.mp hshort
    · exact baseName_subName [] method
    · exact absurd (h.trans hshort.isInfix) (not_infix_word method)

/-! ## What is found -/

/-- The first element of each filled bucket whose name has the method as its last part. -/
def methodHeads (doc : Document) (method : List Char) : List Element :=
  (doc.buckets.filter fun bucket => IsLastPart bucket.1.toList method).filterMap
    fun bucket => bucket.2.head?

theorem anyWithMethod_eq_methodHeads (doc : Document) (method : Word) :
    anyWithMethod doc method.chars = methodHeads doc method.chars := by
  rw [anyWithMethod, methodHeads, List.filterMap_filter]
  congr 1
  funext ⟨name, bucket⟩
  simp only [baseName_eq_iff, decide_eq_true_eq]

/-- What is found for a method under a name: the first element of the bucket; where it is empty and
the name has a package, the first element of the bucket of the bare method, and then of every bucket
that is named by the method in some package. -/
inductive Finds (doc : Document) (name method : List Char) : List Element → Prop where
  | named {e : Element} {rest : List Element}
      (hname : doc.candidates (String.ofList name) = e :: rest) : Finds doc name method [e]
  | bare {e : Element} {rest : List Element}
      (hname : doc.candidates (String.ofList name) = []) (hpackage : [':', ':'] <:+: name)
      (hmethod : doc.candidates (String.ofList method) = e :: rest) : Finds doc name method [e]
  | anywhere (hname : doc.candidates (String.ofList name) = []) (hpackage : [':', ':'] <:+: name)
      (hmethod : doc.candidates (String.ofList method) = []) :
      Finds doc name method (methodHeads doc method)
  | nothing (hname : doc.candidates (String.ofList name) = [])
      (hpackage : ¬ [':', ':'] <:+: name) : Finds doc name method []

theorem qualifiedCandidates_finds (doc : Document) {symbol name : List Char} {method : Word}
    (harrow : ['-', '>'] <:+: symbol)
    (hmethod : [':', ':'] <:+: name → baseName name = method.chars) :
    Finds doc name method.chars (qualifiedCandidates doc symbol name) := by
  have hne : method.chars.isEmpty = false := by simpa using method.ne_nil
  unfold qualifiedCandidates
  cases hname : doc.candidates (String.ofList name) with
  | cons e rest => exact .named hname
  | nil =>
    by_cases hpackage : [':', ':'] <:+: name
    · rw [if_pos (by simp [Text.occursIn_iff, hpackage, harrow]), hmethod hpackage]
      simp only [hne, Bool.false_eq_true, if_false]
      cases hbare : doc.candidates (String.ofList method.chars) with
      | cons e rest => exact .bare hname hpackage hbare
      | nil =>
        rw [anyWithMethod_eq_methodHeads]
        exact .anywhere hname hpackage hbare
    · rw [if_neg (by simp [Text.occursIn_iff, hpackage])]
      exact .nothing hname hpackage

theorem lookup_eq_qualified {doc : Document} {modules : ModuleMap} {symbol : List Char}
    (hbucket : doc.candidates (String.ofList symbol) = [])
    (hmodule : (modules.get? (String.ofList symbol)).getD "" = "") (line : Int) :
    lookup doc modules (String.ofList symbol) line =
      qualified doc symbol line >>= fun name => .ok (qualifiedCandidates doc symbol name) := by
  simp only [lookup, hbucket, mostRecent?, hmodule, String.toList_ofList]
  rfl

theorem lookup_finds {doc : Document} {modules : ModuleMap} {symbol package : List Char}
    {method : Word} {line : Int} (hbucket : doc.candidates (String.ofList symbol) = [])
    (hmodule : (modules.get? (String.ofList symbol)).getD "" = "")
    (harrow : ['-', '>'] <:+: symbol)
    (hname : qualified doc symbol line = .ok (normalize (subName package method))) :
    ∃ found, Finds doc (normalize (subName package method)) method.chars found ∧
      lookup doc modules (String.ofList symbol) line = .ok found := by
  refine ⟨_, qualifiedCandidates_finds doc harrow baseName_normalize, ?_⟩
  rw [lookup_eq_qualified hbucket hmodule, hname]
  rfl

end Lookup

/-- The element of a list that has just one. -/
def single? : List Element → Option Element
  | [e] => some e
  | _ => none

theorem resolve_of_lookup {doc : Document} {modules : ModuleMap} {symbol : String} {line : Int}
    {found : List Element} (hne : symbol ≠ "") (hcanonical : doc.canonical.get? symbol = none)
    (hlookup : lookup doc modules symbol line = .ok found) :
    (resolve doc modules symbol line).outcome = .ok (single? found) := by
  simp only [resolve, String.isEmpty_iff, hne, if_false, hcanonical, hlookup, Traced.outcome_bind,
    Traced.outcome_ofExcept]
  cases found with
  | nil => rfl
  | cons e others => cases others <;> rfl

end PerlSymbols
