import Mathlib.Data.List.Infix
import PerlSymbols.Proofs.Results
import PerlSymbols.Proofs.Session.Showing
import PerlSymbols.Proofs.Text.Search

/-!
# What goes wrong first

An element that cannot be shown has one of three faults, and the first of them is reported. The
parameters come first, also where the kind of the element shows none: all that are left once the
invocant of a method call is dropped have to be texts. The tag comes second, and the URI of a module
last.
-/

namespace PerlSymbols

namespace Hover

/-- The parameters that are left: a method call has its invocant in front of the arrow. -/
def remaining (symbol : String) (items : List Value) : List Value :=
  if ['-', '>'] <:+: symbol.toList then items.tail else items

def IsRemaining (symbol : String) (refined : Option Element) (item : Value) : Prop :=
  ∃ source items, refined = some source ∧ source.signature = some items ∧
    item ∈ remaining symbol items

def RemainingAreTexts (symbol : String) (refined : Option Element) : Prop :=
  ∀ item, IsRemaining symbol refined item → ∃ s, item = .text s

/-- The first fault of an element that is to be shown. -/
inductive Mishap (symbol : String) (e : Element) (refined : Option Element) :
    RequestError → Prop where
  | parameter {item : Value} (hitem : IsRemaining symbol refined item)
      (hother : ∀ s, item ≠ .text s) : Mishap symbol e refined .parameterNotText
  | listTag {items : List Value} (htexts : RemainingAreTexts symbol refined)
      (htag : e.tag = .raw (.list items)) : Mishap symbol e refined .compositeTag
  | mapTag {entries : List (Key × Value)} (htexts : RemainingAreTexts symbol refined)
      (htag : e.tag = .raw (.map entries)) : Mishap symbol e refined .compositeTag
  | path {err : Uri.UriError} (htexts : RemainingAreTexts symbol refined)
      (htag : e.tag = .known .module) (hpath : Uri.displayPath e.uri = .error err) :
      Mishap symbol e refined (.uri err)

/-! ## The parameters -/

section Parameters

variable {symbol : String} {e : Element} {refined : Option Element} {err : RequestError}

theorem remaining_eq (symbol : String) (items : List Value) :
    remaining symbol items = if isMethodCall symbol then items.drop 1 else items := by
  simp only [remaining, isMethodCall, Text.occursIn_iff, List.drop_one]

theorem badParameter_iff :
    BadParameter symbol refined ↔
      ∃ item, IsRemaining symbol refined item ∧ ∀ s, item ≠ .text s := by
  simp only [BadParameter, IsRemaining, remaining_eq, Option.bind_eq_some_iff]
  constructor
  · rintro ⟨items, item, ⟨source, hsource, hitems⟩, hm, hitem⟩
    exact ⟨item, ⟨source, items, hsource, hitems, hm⟩, hitem⟩
  · rintro ⟨item, ⟨source, items, hsource, hitems, hm⟩, hitem⟩
    exact ⟨items, item, ⟨source, hsource, hitems⟩, hm, hitem⟩

theorem not_badParameter_iff :
    ¬ BadParameter symbol refined ↔ RemainingAreTexts symbol refined := by
  rw [badParameter_iff, RemainingAreTexts]
  simp only [ne_eq, not_exists, not_and, not_forall, not_not]

theorem parameterText_error {v : Value} (h : parameterText v = .error err) :
    err = .parameterNotText := by
  cases v with
  | text s => cases h
  | _ =>
    cases h
    rfl

theorem nameAndParameters_error (h : nameAndParameters symbol e refined = .error err) :
    err = .parameterNotText := by
  unfold nameAndParameters at h
  split at h
  · cases h
  · next items _ =>
    dsimp only at h
    rw [bind_eq_error] at h
    rcases h with h | ⟨shown, -, hpure⟩
    · obtain ⟨item, -, hitem⟩ := exists_of_mapM_eq_error h
      exact parameterText_error hitem
    · cases hpure

/-- Names and parameters fail on what is no text, and in no other way. -/
theorem nameAndParameters_error_iff :
    nameAndParameters symbol e refined = .error err ↔
      BadParameter symbol refined ∧ err = .parameterNotText := by
  rw [← nameAndParameters_fails_iff symbol e]
  constructor
  · intro h
    exact ⟨⟨err, h⟩, nameAndParameters_error h⟩
  · rintro ⟨⟨err', h⟩, rfl⟩
    rw [h, nameAndParameters_error h]

end Parameters

/-! ## The kind -/

section Kinds

variable {symbol name parameters : String} {e : Element} {refined : Option Element}
  {err : RequestError}

theorem kindText_error_iff {kind : Kind} :
    kindText symbol kind e name parameters = .error err ↔
      kind = .module ∧ ∃ err', Uri.displayPath e.uri = .error err' ∧ err = .uri err' := by
  cases kind with
  | module =>
    rw [kindText, bind_eq_error]
    cases hpath : Uri.displayPath e.uri with
    | ok path => simp [Except.mapError, pure, Except.pure]
    | error err' => simp [Except.mapError, eq_comm]
  | _ => simp [kindText]

theorem hoverText_error_known {kind : Kind} (htag : e.tag = .known kind)
    (hname : nameAndParameters symbol e refined = .ok (name, parameters)) :
    (hoverText symbol e refined).outcome = .error err ↔
      kind = .module ∧ ∃ err', Uri.displayPath e.uri = .error err' ∧ err = .uri err' := by
  rw [hoverText_known htag hname]
  split
  · next text htext =>
    -- A variable is shown by its type before its kind is asked, and a module is no variable.
    have hkind : kind ≠ .module := by
      rintro rfl
      cases htext
    simp [hkind]
  · rw [Traced.outcome_ofExcept, kindText_error_iff]

theorem hoverText_error_raw {v : Value} (htag : e.tag = .raw v)
    (hname : nameAndParameters symbol e refined = .ok (name, parameters)) :
    (hoverText symbol e refined).outcome = .error err ↔
      v.isComposite = true ∧ err = .compositeTag := by
  rw [hoverText_raw htag hname]
  split
  · next hv => simp [hv, eq_comm]
  · next hv => simp [hv]

theorem hoverText_error_of_name {err' : RequestError}
    (hname : nameAndParameters symbol e refined = .error err') :
    (hoverText symbol e refined).outcome = .error err' := by
  rw [hoverText, Traced.outcome_bind, Traced.outcome_ofExcept, hname]
  rfl

end Kinds

/-! ## Which fault is the first -/

section Mishaps

variable {symbol : String} {e : Element} {refined : Option Element} {err : RequestError}

theorem mishap_of_bad (hbad : BadParameter symbol refined) :
    Mishap symbol e refined err ↔ err = .parameterNotText := by
  have htexts : ¬ RemainingAreTexts symbol refined := fun h => not_badParameter_iff.mpr h hbad
  constructor
  · rintro (_ | h | h | h)
    · rfl
    all_goals exact absurd h htexts
  · rintro rfl
    obtain ⟨item, hitem, hother⟩ := badParameter_iff.mp hbad
    exact .parameter hitem hother

theorem mishap_known {kind : Kind} (hgood : ¬ BadParameter symbol refined)
    (htag : e.tag = .known kind) :
    Mishap symbol e refined err ↔
      kind = .module ∧ ∃ err', Uri.displayPath e.uri = .error err' ∧ err = .uri err' := by
  constructor
  · intro h
    cases h with
    | parameter hitem hother => exact absurd (badParameter_iff.mpr ⟨_, hitem, hother⟩) hgood
    | listTag _ hraw | mapTag _ hraw =>
      rw [htag] at hraw
      cases hraw
    | path _ hmodule hpath =>
      rw [htag] at hmodule
      cases hmodule
      exact ⟨rfl, _, hpath, rfl⟩
  · rintro ⟨rfl, err', hpath, rfl⟩
    exact .path (not_badParameter_iff.mp hgood) htag hpath

theorem mishap_raw {v : Value} (hgood : ¬ BadParameter symbol refined) (htag : e.tag = .raw v) :
    Mishap symbol e refined err ↔ v.isComposite = true ∧ err = .compositeTag := by
  constructor
  · intro h
    cases h with
    | parameter hitem hother => exact absurd (badParameter_iff.mpr ⟨_, hitem, hother⟩) hgood
    | listTag _ hraw | mapTag _ hraw =>
      rw [htag] at hraw
      cases hraw
      exact ⟨rfl, rfl⟩
    | path _ hmodule _ =>
      rw [htag] at hmodule
      cases hmodule
  · rintro ⟨hv, rfl⟩
    have htexts := not_badParameter_iff.mp hgood
    cases v with
    | list items => exact .listTag htexts htag
    | map entries => exact .mapTag htexts htag
    | _ => cases hv

end Mishaps

/-- **What goes wrong first.** An element is shown, or its first fault is reported. -/
theorem hoverText_error_iff (symbol : String) (e : Element) (refined : Option Element)
    (err : RequestError) :
    (hoverText symbol e refined).outcome = .error err ↔ Mishap symbol e refined err := by
  cases hname : nameAndParameters symbol e refined with
  | error err' =>
    obtain ⟨hbad, rfl⟩ := nameAndParameters_error_iff.mp hname
    rw [hoverText_error_of_name hname, mishap_of_bad hbad]
    simp [eq_comm]
  | ok shown =>
    have hgood : ¬ BadParameter symbol refined := by
      rw [← nameAndParameters_fails_iff symbol e, hname]
      simp
    cases htag : e.tag with
    | known kind => rw [hoverText_error_known htag hname, mishap_known hgood htag]
    | raw v => rw [hoverText_error_raw htag hname, mishap_raw hgood htag]

-- A package is shown without parameters, and yet its signature is looked at. Only the invocant of
-- a method call is not.
example :
    let signed : Element := { name := "Foo", tag := .known .package, signature := some [.int 1] }
    (hoverText "Foo" signed (some signed)).outcome = .error .parameterNotText ∧
      (hoverText "$x->Foo" signed (some signed)).outcome = .ok "(package) Foo" :=
  ⟨rfl, rfl⟩

end Hover

end PerlSymbols
