import Mathlib.Data.List.TakeWhile
import Mathlib.Data.Set.List
import PerlSymbols.Proofs.Lookup.Names
import PerlSymbols.Proofs.Session.Showing

/-!
# The text of a call

A callable element is shown on one line: a word for its kind, its name, the parameters in
parentheses, and for a sub from elsewhere its full name. The signature decides about the parameters
and the form of the name, and about nothing else. In a method call the first parameter is left out,
and the last part of the name stands after an arrow.
-/

namespace PerlSymbols.Hover

open Cursor (Word)
open Lookup (subName)

/-! ## The name with an arrow -/

/-- A name ends where the text does, or at a line end there. -/
def IsEnd (tail : List Char) : Prop :=
  tail = [] ∨ tail = ['\n']

/-- The package separator before the last part of a name becomes an arrow. Where no word follows a
package separator up to the end, the name stays as it is. -/
inductive ArrowForm : List Char → List Char → Prop where
  | sub (front : List Char) (word : Word) {tail : List Char} (h : IsEnd tail) :
      ArrowForm (subName front word ++ tail) (front ++ '-' :: '>' :: word.chars ++ tail)
  | plain {name : List Char}
      (h : ∀ front (word : Word) tail, IsEnd tail → name ≠ subName front word ++ tail) :
      ArrowForm name name

theorem isWord_newline : Text.isWord '\n' = false := by decide

theorem dropWhile_end {tail : List Char} (h : IsEnd tail) : tail.dropWhile Text.isWord = tail := by
  rcases h with rfl | rfl
  · rfl
  · exact List.dropWhile_cons_of_neg (by simp [isWord_newline])

theorem colon_not_mem {word : Word} {tail : List Char} (h : IsEnd tail) :
    ':' ∉ word.chars ++ tail := by
  have hword : ':' ∉ word.chars := Lookup.not_mem_word (by decide) word
  rcases h with rfl | rfl <;> simp [hword]

theorem reachesEnd_iff (name : List Char) :
    (name.head?.any Text.isWord && ((name.dropWhile Text.isWord).isEmpty ||
        name.dropWhile Text.isWord == ['\n'])) = true ↔
      ∃ (word : Word) (tail : List Char), IsEnd tail ∧ name = word.chars ++ tail := by
  constructor
  · intro h
    simp only [Bool.and_eq_true, Bool.or_eq_true, List.isEmpty_iff, beq_iff_eq] at h
    refine ⟨⟨name.takeWhile Text.isWord, ?_, fun c hc => List.mem_takeWhile_imp hc⟩,
      name.dropWhile Text.isWord, h.2, (List.takeWhile_append_dropWhile ..).symm⟩
    cases name with
    | nil => simp at h
    | cons c rest =>
      have hc : Text.isWord c = true := by simpa using h.1
      simp [List.takeWhile_cons_of_pos hc]
  · rintro ⟨word, tail, htail, rfl⟩
    obtain ⟨c, rest, hword⟩ := List.exists_cons_of_ne_nil word.ne_nil
    have hc : Text.isWord c = true := word.isWord c (by simp [hword])
    rw [List.dropWhile_append_of_pos word.isWord, dropWhile_end htail]
    rcases htail with rfl | rfl <;> simp [hword, hc]

theorem arrowName_of_end (word : Word) {tail : List Char} (h : IsEnd tail) :
    arrowName (':' :: ':' :: (word.chars ++ tail)) = '-' :: '>' :: (word.chars ++ tail) := by
  have hafter : Text.after? [':', ':'] (':' :: ':' :: (word.chars ++ tail)) =
      some (word.chars ++ tail) := Text.after?_eq_some_iff.mpr rfl
  unfold arrowName
  rw [hafter]
  exact if_pos ((reachesEnd_iff _).mpr ⟨word, tail, h, rfl⟩)

theorem arrowName_cons {c : Char} {rest : List Char}
    (h : ∀ (word : Word) tail, IsEnd tail → c :: rest ≠ ':' :: ':' :: (word.chars ++ tail)) :
    arrowName (c :: rest) = c :: arrowName rest := by
  rw [arrowName]
  split
  · next name hname =>
    rw [Text.after?_eq_some_iff] at hname
    refine if_neg fun hend => ?_
    obtain ⟨word, tail, htail, rfl⟩ := (reachesEnd_iff name).mp hend
    exact h word tail htail hname
  · rfl

theorem arrowName_sub (front : List Char) (word : Word) {tail : List Char} (h : IsEnd tail) :
    arrowName (subName front word ++ tail) = front ++ '-' :: '>' :: word.chars ++ tail := by
  induction front with
  | nil => exact arrowName_of_end word h
  | cons c front ih =>
    rw [subName, List.cons_append, List.cons_append, arrowName_cons]
    · rw [← subName, ih]
      rfl
    · -- The separator that is still to come would be part of the word, or after it.
      intro word' tail' htail' hsplit
      have hmem : ':' ∈ word'.chars ++ tail' := by
        have hrest := (List.cons.inj hsplit).2
        cases front with
        | nil => rw [← (List.cons.inj hrest).2]; simp
        | cons d front => rw [← (List.cons.inj hrest).2]; simp
      exact colon_not_mem htail' hmem

theorem arrowName_plain {name : List Char}
    (h : ∀ front (word : Word) tail, IsEnd tail → name ≠ subName front word ++ tail) :
    arrowName name = name := by
  induction name with
  | nil => rfl
  | cons c rest ih =>
    rw [arrowName_cons, ih]
    · intro front word tail htail hrest
      exact h (c :: front) word tail htail (by rw [hrest]; rfl)
    · intro word tail htail hname
      exact h [] word tail htail hname

theorem arrowForm_iff {name shown : List Char} : ArrowForm name shown ↔ shown = arrowName name := by
  constructor
  · rintro (⟨front, word, htail⟩ | hplain)
    · exact (arrowName_sub front word htail).symm
    · exact (arrowName_plain hplain).symm
  · rintro rfl
    by_cases hsub : ∃ front, ∃ word : Word, ∃ tail, IsEnd tail ∧ name = subName front word ++ tail
    · obtain ⟨front, word, tail, htail, rfl⟩ := hsub
      rw [arrowName_sub front word htail]
      exact .sub front word htail
    · have hplain : ∀ front (word : Word) tail, IsEnd tail → name ≠ subName front word ++ tail :=
        fun front word tail htail hname => hsub ⟨front, word, tail, htail, hname⟩
      rw [arrowName_plain hplain]
      exact .plain hplain

/-! ## The line -/

def callWord (kind : Kind) : String :=
  if kind = .localMethod ∨ kind = .method then "(method) " else "(subroutine) "

/-- The full name behind a sub from elsewhere, where it says more than the name. -/
def origin (kind : Kind) (e : Element) : String :=
  if (kind = .importedSub ∨ kind = .inherited) ∧ e.typeDetail ≠ "" ∧ e.typeDetail ≠ e.name then
    " (" ++ e.typeDetail ++ ")"
  else ""

def listed (parameters : List String) : String :=
  if parameters = [] then "" else "(" ++ ", ".intercalate parameters ++ ")"

def callLine (kind : Kind) (e : Element) (name : String) (parameters : List String) : String :=
  callWord kind ++ name ++ listed parameters ++ origin kind e

/-- The line of a callable element, by what its refined element has for a signature. -/
inductive Renders (symbol : String) (kind : Kind) (e : Element) (refined : Option Element) :
    String → Prop where
  | unsigned (hnone : refined.bind Element.signature = none) :
      Renders symbol kind e refined (callLine kind e e.name [])
  | function {parameters : List String}
      (hsigned : refined.bind Element.signature = some (parameters.map .text))
      (harrow : ¬ ['-', '>'] <:+: symbol.toList) :
      Renders symbol kind e refined (callLine kind e e.name parameters)
  | method {parameters : List String} {name : List Char}
      (hsigned : refined.bind Element.signature = some (parameters.map .text))
      (harrow : ['-', '>'] <:+: symbol.toList) (hname : ArrowForm e.name.toList name) :
      Renders symbol kind e refined (callLine kind e (String.ofList name) parameters.tail)

theorem mapM_parameterText (parameters : List String) :
    (parameters.map Value.text).mapM parameterText = .ok parameters := by
  induction parameters with
  | nil => rfl
  | cons s rest ih =>
    rw [List.map_cons, List.mapM_cons, ih]
    rfl

section Line

variable {symbol shown : String} {kind : Kind} {e : Element} {refined : Option Element}

theorem nameAndParameters_signed {parameters : List String}
    (h : refined.bind Element.signature = some (parameters.map .text)) :
    nameAndParameters symbol e refined =
      .ok (if isMethodCall symbol then
          (String.ofList (arrowName e.name.toList), listed parameters.tail)
        else (e.name, listed parameters)) := by
  have hlisted : ∀ parameters : List String, listed parameters =
      if parameters.isEmpty then "" else "(" ++ ", ".intercalate parameters ++ ")" := by
    simp [listed]
  unfold nameAndParameters
  rw [h]
  dsimp only
  split_ifs
  · rw [List.drop_one, ← List.map_tail, mapM_parameterText, hlisted]
    rfl
  · rw [mapM_parameterText, hlisted]
    rfl

theorem kindText_callable (hcallable : kind.isCallable = true) (symbol name parameters : String) :
    kindText symbol kind e name parameters =
      .ok (callWord kind ++ name ++ parameters ++ origin kind e) := by
  unfold kindText callWord origin importedText
  cases kind with
  | importedSub | inherited | localSub | localMethod | method => simp
  | _ => cases hcallable

theorem hoverText_callable {name parameters : String} (htag : e.tag = .known kind)
    (hcallable : kind.isCallable = true)
    (hname : nameAndParameters symbol e refined = .ok (name, parameters)) :
    hoverText symbol e refined = pure (callWord kind ++ name ++ parameters ++ origin kind e) := by
  have hobject : objectText? symbol kind e = none := by
    cases kind with
    | importedSub | inherited | localSub | localMethod | method => rfl
    | _ => cases hcallable
  rw [hoverText_known htag hname, hobject, kindText_callable hcallable]
  rfl

theorem hoverText_of_renders (htag : e.tag = .known kind) (hcallable : kind.isCallable = true)
    (h : Renders symbol kind e refined shown) : hoverText symbol e refined = pure shown := by
  cases h with
  | unsigned hnone =>
    refine hoverText_callable htag hcallable ?_
    rw [nameAndParameters, hnone]
    rfl
  | function hsigned harrow =>
    refine hoverText_callable htag hcallable ?_
    rw [nameAndParameters_signed hsigned, if_neg (by rwa [isMethodCall, Text.occursIn_iff])]
  | method hsigned harrow hname =>
    refine hoverText_callable htag hcallable ?_
    rw [nameAndParameters_signed hsigned, if_pos (by rwa [isMethodCall, Text.occursIn_iff]),
      arrowForm_iff.mp hname]

theorem exists_renders (symbol : String) (kind : Kind) (e : Element)
    (htexts : ∀ items, refined.bind Element.signature = some items →
      ∀ item ∈ items, ∃ s, item = .text s) :
    ∃ shown, Renders symbol kind e refined shown := by
  cases hsignature : refined.bind Element.signature with
  | none => exact ⟨_, .unsigned hsignature⟩
  | some items =>
    obtain ⟨parameters, rfl⟩ : items ∈ Set.range (List.map Value.text) := by
      rw [Set.range_list_map]
      intro item hitem
      obtain ⟨s, rfl⟩ := htexts items hsignature item hitem
      exact ⟨s, rfl⟩
    by_cases harrow : ['-', '>'] <:+: symbol.toList
    · exact ⟨_, .method hsignature harrow (arrowForm_iff.mpr rfl)⟩
    · exact ⟨_, .function hsignature harrow⟩

end Line

/-- **The text of a call.** A callable element is shown with nothing but its line: the word for its
kind, its name with or without an arrow, the parameters, and where it comes from. -/
theorem callable_text (symbol : String) (e : Element) (refined : Option Element) (kind : Kind)
    (htag : e.tag = .known kind) (hcallable : kind.isCallable = true)
    (htexts : ∀ items, refined.bind Element.signature = some items →
      ∀ item ∈ items, ∃ s, item = .text s) :
    ∃ text, hoverText symbol e refined = pure text ∧
      ∀ shown, Renders symbol kind e refined shown ↔ shown = text := by
  obtain ⟨text, htext⟩ := exists_renders symbol kind e htexts
  -- The rules overlap nowhere: whatever they give is the one text of the hover.
  have hpure := hoverText_of_renders htag hcallable htext
  refine ⟨text, hpure, fun shown => ⟨?_, ?_⟩⟩
  · intro hshown
    have hsame := (hoverText_of_renders htag hcallable hshown).symm.trans hpure
    exact Except.ok.inj (congrArg Traced.outcome hsame)
  · rintro rfl
    exact htext

def inheritedConnect : Element :=
  { name := "Net::Ping::connect", tag := .known .inherited, typeDetail := "Net::Base::connect",
    signature := some [.text "$self", .text "$host", .text "%opts"] }

theorem callable_text_method :
    inheritedConnect.tag = .known .inherited ∧
    hoverText "$ping->connect" inheritedConnect (some inheritedConnect) =
      pure "(subroutine) Net::Ping->connect($host, %opts) (Net::Base::connect)" ∧
    Renders "$ping->connect" .inherited inheritedConnect (some inheritedConnect)
      "(subroutine) Net::Ping->connect($host, %opts) (Net::Base::connect)" := by
  have hshown : hoverText "$ping->connect" inheritedConnect (some inheritedConnect) =
      pure "(subroutine) Net::Ping->connect($host, %opts) (Net::Base::connect)" := rfl
  have htexts : ∀ items, (some inheritedConnect).bind Element.signature = some items →
      ∀ item ∈ items, ∃ s, item = .text s := by
    rintro items ⟨⟩ item hitem
    simp only [List.mem_cons, List.not_mem_nil, or_false] at hitem
    rcases hitem with rfl | rfl | rfl
    · exact ⟨_, rfl⟩
    · exact ⟨_, rfl⟩
    · exact ⟨_, rfl⟩
  obtain ⟨text, htext, hrenders⟩ := callable_text "$ping->connect" inheritedConnect
    (some inheritedConnect) .inherited rfl rfl htexts
  refine ⟨rfl, hshown, (hrenders _).mpr ?_⟩
  exact Except.ok.inj (congrArg Traced.outcome (hshown.symm.trans htext))

end PerlSymbols.Hover
