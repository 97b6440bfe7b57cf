import PerlSymbols.Hover
import PerlSymbols.Proofs.Session.Listing

/-!
# When a hover fails

A hover fails on data of the index that is not what it should be: a parent that is no text, a tag
that is a list or a map, a parameter that is no text, and the URI of a module that cannot be taken
apart. Each condition is exact.
-/

namespace PerlSymbols

namespace Traced

variable {ε α β : Type}

@[simp]
theorem outcome_pure (a : α) : (pure a : Traced ε α).outcome = .ok a := rfl

@[simp]
theorem outcome_throw (e : ε) : (throw e : Traced ε α).outcome = .error e := rfl

@[simp]
theorem outcome_ofExcept (x : Except ε α) : (ofExcept x).outcome = x := rfl

@[simp]
theorem outcome_log (level : Log.Level) (event : String) (fields : List (String × Value)) :
    (log level event fields : Traced ε Unit).outcome = .ok () := rfl

@[simp]
theorem outcome_load (uri : String) : (load uri : Traced ε Unit).outcome = .ok () := rfl

theorem outcome_bind (x : Traced ε α) (f : α → Traced ε β) :
    (x >>= f).outcome = x.outcome >>= fun a => (f a).outcome := by
  obtain ⟨steps, outcome⟩ := x
  cases outcome with
  | ok a => rfl
  | error e => rfl

end Traced

/-! ## From the symbol to the element -/

/-- A call to `SUPER` in a package whose parent is given but no text. -/
def BadParent (doc : Document) (symbol : String) (line : Int) : Prop :=
  ∃ invocant rest e v, Lookup.superCall? symbol.toList = some (invocant, rest) ∧
    mostRecent? (doc.candidates (String.ofList invocant)) line = some e ∧
    e.package ≠ "" ∧ doc.parents.get? (.text e.package) = some v ∧
    v.isGiven = true ∧ ∀ s, v ≠ .text s

namespace Lookup

theorem parentOf_fails_iff (doc : Document) (invocant : String) (line : Int) :
    Fails (parentOf doc invocant line) ↔
      ∃ e v, mostRecent? (doc.candidates invocant) line = some e ∧ e.package ≠ "" ∧
        doc.parents.get? (.text e.package) = some v ∧ v.isGiven = true ∧ ∀ s, v ≠ .text s := by
  rw [parentOf]
  split
  · next hnone => simp [hnone]
  · next e he =>
    split
    · next hempty => simp_all
    · next hempty =>
      split
      · next hnone => simp [he, hnone]
      · next parent htext => simp [he, htext]
      · next v hne hv =>
        have hnot : ∀ s, v ≠ .text s := fun s hs => hne s hs
        split
        · next hgiven => simp_all
        · next hgiven => simp_all

theorem qualified_fails_iff (doc : Document) (symbol : String) (line : Int) :
    Fails (qualified doc symbol.toList line) ↔ BadParent doc symbol line := by
  rw [qualified, fails_bind_pure, qualifySuper]
  split
  · next hnone => simp [BadParent, hnone]
  · next invocant rest hsuper =>
    refine (fails_bind_total ?_).trans ((parentOf_fails_iff _ _ _).trans ?_)
    · intro parent
      split <;> simp
    · constructor
      · rintro ⟨e, v, h⟩
        exact ⟨invocant, rest, e, v, hsuper, h⟩
      · rintro ⟨invocant', rest', e, v, hsuper', h⟩
        rw [hsuper] at hsuper'
        cases hsuper'
        exact ⟨e, v, h⟩

end Lookup

theorem mostRecent?_eq_none {found : List Element} {line : Int} :
    mostRecent? found line = none ↔ found = [] := by
  cases found <;> simp [mostRecent?]

theorem lookup_fails_iff (doc : Document) (modules : ModuleMap) (symbol : String) (line : Int) :
    Fails (lookup doc modules symbol line) ↔
      doc.candidates symbol = [] ∧ (modules.get? symbol).getD "" = "" ∧
        BadParent doc symbol line := by
  rw [lookup]
  split
  · next e he =>
    have hne : doc.candidates symbol ≠ [] := by
      intro h
      rw [h] at he
      cases he
    simp [hne]
  · next hnone =>
    rw [mostRecent?_eq_none] at hnone
    dsimp only
    split
    · next huri => simp_all
    · next huri =>
      rw [fails_bind_pure, Lookup.qualified_fails_iff]
      simp_all

/-- The one thing that goes wrong on the way from a symbol to its element. -/
def Unresolvable (doc : Document) (modules : ModuleMap) (symbol : String) (line : Int) : Prop :=
  symbol ≠ "" ∧ doc.canonical.get? symbol = none ∧ doc.candidates symbol = [] ∧
    (modules.get? symbol).getD "" = "" ∧ BadParent doc symbol line

theorem resolve_fails_iff (doc : Document) (modules : ModuleMap) (symbol : String) (line : Int) :
    Fails (resolve doc modules symbol line).outcome ↔ Unresolvable doc modules symbol line := by
  rw [resolve, Unresolvable]
  split
  · next hempty => simp_all
  · next hempty =>
    split
    · next e he => simp [he]
    · next hnone =>
      rw [Traced.outcome_bind]
      refine (fails_bind_total ?_).trans ?_
      · intro found
        split
        · simp
        · rw [Traced.outcome_bind, fails_bind]
          simp
      · rw [Traced.outcome_ofExcept, lookup_fails_iff]
        simp_all

/-! ## The signature -/

theorem Refine.fromDefining_not_fails (e : Element) (requestUri : String) (loader : Option Loader) :
    ¬ Fails (fromDefining e requestUri loader).outcome := by
  unfold fromDefining
  split
  · simp
  · next loader =>
    split
    · simp
    · rw [Traced.outcome_bind, fails_bind]
      simp only [Traced.outcome_load, fails_ok, false_or]
      rintro ⟨-, -, h⟩
      split at h
      · rw [Traced.outcome_bind, fails_bind] at h
        simp at h
      · split at h <;> simp at h

def Element.HasCompositeTag (e : Element) : Prop :=
  ∃ v, e.tag = .raw v ∧ v.isComposite = true

theorem refine_fails_iff (e : Element) (doc : Document) (requestUri : String)
    (loader : Option Loader) :
    Fails (refine e doc requestUri loader).outcome ↔ e.HasCompositeTag := by
  unfold refine
  split
  · next v htag =>
    split
    · next hv => simp [Element.HasCompositeTag, htag, hv]
    · next hv => simp [Element.HasCompositeTag, htag, hv]
  · next kind htag =>
    have hnot : ¬ e.HasCompositeTag := by simp [Element.HasCompositeTag, htag]
    refine iff_of_false ?_ hnot
    split
    · simp
    · split
      · simp
      · split
        · simp
        · exact Refine.fromDefining_not_fails e requestUri loader

/-- A parameter that is to be shown is no text. -/
def BadParameter (symbol : String) (refined : Option Element) : Prop :=
  ∃ items item, refined.bind Element.signature = some items ∧
    item ∈ (if Hover.isMethodCall symbol then items.drop 1 else items) ∧ ∀ s, item ≠ .text s

namespace Hover

theorem parameterText_fails_iff (v : Value) : Fails (parameterText v) ↔ ∀ s, v ≠ .text s := by
  cases v <;> simp [parameterText]

theorem nameAndParameters_fails_iff (symbol : String) (e : Element) (refined : Option Element) :
    Fails (nameAndParameters symbol e refined) ↔ BadParameter symbol refined := by
  unfold nameAndParameters
  split
  · next hnone => simp [BadParameter, hnone]
  · next items hitems =>
    rw [fails_bind_pure, fails_mapM]
    simp only [parameterText_fails_iff]
    constructor
    · rintro ⟨item, hm, hitem⟩
      exact ⟨items, item, hitems, hm, hitem⟩
    · rintro ⟨items', item, hitems', hm, hitem⟩
      rw [hitems] at hitems'
      cases hitems'
      exact ⟨item, hm, hitem⟩

/-- Of all kinds, only a module is shown with something that has to be taken apart. -/
theorem kindText_fails_iff (symbol : String) (kind : Kind) (e : Element)
    (name parameters : String) : Fails (kindText symbol kind e name parameters) ↔
      kind = .module ∧ Fails (Uri.displayPath e.uri) := by
  cases kind with
  | module =>
    rw [kindText, fails_bind_pure, fails_mapError]
    simp
  | _ => simp [kindText]

end Hover

/-- A module with a URI that cannot be taken apart. -/
def Element.IsPathlessModule (e : Element) : Prop :=
  e.tag = .known .module ∧ Fails (Uri.displayPath e.uri)

theorem hoverText_fails_iff (symbol : String) (e : Element) (refined : Option Element) :
    Fails (hoverText symbol e refined).outcome ↔
      BadParameter symbol refined ∨ e.HasCompositeTag ∨ e.IsPathlessModule := by
  rw [hoverText, Traced.outcome_bind, Traced.outcome_ofExcept,
    ← Hover.nameAndParameters_fails_iff symbol e]
  refine fails_bind_const ?_
  rintro ⟨name, parameters⟩
  cases htag : e.tag with
  | known kind =>
    have hnot : ¬ e.HasCompositeTag := by simp [Element.HasCompositeTag, htag]
    have hmodule : e.IsPathlessModule ↔ kind = .module ∧ Fails (Uri.displayPath e.uri) := by
      simp [Element.IsPathlessModule, htag]
    rw [hmodule, or_iff_right hnot, ← Hover.kindText_fails_iff symbol kind e name parameters]
    dsimp only
    split
    · next text htext =>
      -- A module is no variable, so this is another kind.
      have hkind : kind ≠ .module := by
        rintro rfl
        cases htext
      rw [Hover.kindText_fails_iff]
      simp [hkind]
    · rfl
  | raw v =>
    have hmodule : ¬ e.IsPathlessModule := by simp [Element.IsPathlessModule, htag]
    have htags : e.HasCompositeTag ↔ v.isComposite = true := by
      simp [Element.HasCompositeTag, htag]
    rw [htags, or_iff_left hmodule]
    dsimp only
    split
    · next hv =>
      rw [Traced.outcome_bind]
      simp [hv, bind, Except.bind]
    · next hv =>
      rw [Traced.outcome_bind, Traced.outcome_pure]
      simp [hv, bind, Except.bind]

/-! ## The whole request -/

/-- What goes wrong when an element that was found is to be shown. -/
def Unshowable (symbol : String) (e : Element) (doc : Document) (requestUri : String)
    (loader : Option Loader) : Prop :=
  e.HasCompositeTag ∨ e.IsPathlessModule ∨
    ∃ refined, (refine e doc requestUri loader).outcome = .ok refined ∧
      BadParameter symbol (refined.element? e)

theorem hover_fails_iff (requestUri : String) (position : Position) (doc : Document) (text : String)
    (modules : ModuleMap) (loader : Option Loader) :
    Fails (hover requestUri position doc text modules loader).outcome ↔
      Unresolvable doc modules (Cursor.symbolAt position text) position.line ∨
      ∃ e, (resolve doc modules (Cursor.symbolAt position text) position.line).outcome =
          .ok (some e) ∧
        Unshowable (Cursor.symbolAt position text) e doc requestUri loader := by
  rw [hover, Traced.outcome_bind, fails_bind, resolve_fails_iff]
  refine or_congr Iff.rfl ?_
  generalize Cursor.symbolAt position text = symbol
  -- What is done with the text once it is there does not fail.
  have hshow : ∀ e refined, Fails (do
      let shown ← hoverText symbol e refined
      if shown.isEmpty then return none
      Traced.log .debug "hover_rendered"
        [("symbol", .text symbol), ("kind", .text (Hover.tagText e.tag))]
      return some { markup := .plainText, value := shown } :
        Traced RequestError (Option Hover.Contents)).outcome ↔
      BadParameter symbol refined ∨ e.HasCompositeTag ∨ e.IsPathlessModule := by
    intro e refined
    rw [Traced.outcome_bind, ← hoverText_fails_iff]
    refine fails_bind_total ?_
    intro shown
    split
    · simp
    · rw [Traced.outcome_bind, fails_bind]
      simp
  constructor
  · rintro ⟨found, hfound, h⟩
    cases found with
    | none => simp at h
    | some e =>
      refine ⟨e, hfound, ?_⟩
      rw [Traced.outcome_bind, fails_bind, refine_fails_iff] at h
      rcases h with h | ⟨refined, hrefined, h⟩
      · exact Or.inl h
      · rcases (hshow e _).mp h with h | h | h
        · exact Or.inr (Or.inr ⟨refined, hrefined, h⟩)
        · exact Or.inl h
        · exact Or.inr (Or.inl h)
  · rintro ⟨e, he, h⟩
    refine ⟨some e, he, ?_⟩
    rw [Traced.outcome_bind, fails_bind, refine_fails_iff]
    by_cases htag : e.HasCompositeTag
    · exact Or.inl htag
    · right
      rcases h with h | h | ⟨refined, hrefined, h⟩
      · exact absurd h htag
      · obtain ⟨refined, hrefined⟩ := not_fails_iff.mp (mt (refine_fails_iff ..).mp htag)
        exact ⟨refined, hrefined, (hshow e _).mpr (Or.inr (Or.inr h))⟩
      · exact ⟨refined, hrefined, (hshow e _).mpr (Or.inl h)⟩

end PerlSymbols
