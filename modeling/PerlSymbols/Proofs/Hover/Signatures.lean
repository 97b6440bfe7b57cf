import Mathlib.Data.List.Infix
import PerlSymbols.Proofs.Session.Hovering
import PerlSymbols.Proofs.Text.Search

/-!
# The signature that is shown

Of all places where the signature of a call may stand, the first that has one counts: the element
itself, its bucket in the document, and then the document that it came from, under its name and
under its name in its package. An empty signature is one. The other document is asked for at most
once, and not before the places at hand are found to have none.
-/

namespace PerlSymbols

/-- Of a kind whose signature can be refined at a call. -/
def Element.IsCallable (e : Element) : Prop :=
  ∃ kind, e.tag = .known kind ∧ kind.isCallable = true

namespace Refine

/-! ## The places -/

def nearby (e : Element) (doc : Document) : List Element :=
  e :: doc.candidates e.name

def inDefining (e : Element) (defining : Document) : List Element :=
  defining.candidates e.name ++
    if e.package ≠ "" ∧ ¬ [':', ':'] <:+: e.name.toList then
      defining.candidates (e.package ++ "::" ++ e.name)
    else []

/-- The element came from another document than that of the request, and there is a loader. -/
def IsForeign (e : Element) (requestUri : String) (loader : Option Loader) : Prop :=
  loader.isSome ∧ e.uri ≠ "" ∧ e.uri ≠ requestUri

instance (e : Element) (requestUri : String) (loader : Option Loader) :
    Decidable (IsForeign e requestUri loader) :=
  inferInstanceAs (Decidable (_ ∧ _))

/-- What the document that the element came from has, where it can be had. -/
def elsewhere (e : Element) (requestUri : String) (loader : Option Loader) : List Element :=
  if IsForeign e requestUri loader then
    ((loader.bind fun load => load e.uri).map (inDefining e)).getD []
  else []

/-- All places, in the order in which they are tried. -/
def places (e : Element) (doc : Document) (requestUri : String) (loader : Option Loader) :
    List Element :=
  nearby e doc ++ elsewhere e requestUri loader

def IsFirstSigned (candidates : List Element) (r : Element) : Prop :=
  ∃ before after, candidates = before ++ r :: after ∧ r.signature ≠ none ∧
    ∀ x ∈ before, x.signature = none

/-! ## The search -/

theorem isFirstSigned_of_withSignature? {candidates : List Element} {r : Element}
    (h : withSignature? candidates = some r) : IsFirstSigned candidates r := by
  unfold withSignature? at h
  obtain ⟨hr, before, after, hsplit, hbefore⟩ := List.find?_eq_some_iff_append.mp h
  refine ⟨before, after, hsplit, Option.isSome_iff_ne_none.mp hr, ?_⟩
  intro x hx
  simpa using hbefore x hx

theorem withSignature?_eq_none {candidates : List Element} :
    withSignature? candidates = none ↔ ∀ x ∈ candidates, x.signature = none := by
  simp [withSignature?]

theorem withSignature?_append (first second : List Element) :
    withSignature? (first ++ second) = (withSignature? first).or (withSignature? second) := by
  simp [withSignature?]

theorem inDefining_eq (e : Element) (defining : Document) :
    inDefining e defining = (namesToTry e).flatMap defining.candidates := by
  have hqualify : (!e.package.isEmpty && !Text.occursIn [':', ':'] e.name.toList) = true ↔
      e.package ≠ "" ∧ ¬ [':', ':'] <:+: e.name.toList := by
    rw [← Text.occursIn_iff]
    simp
  unfold inDefining namesToTry
  simp only [hqualify]
  split_ifs <;> simp

theorem inDocument?_namesToTry (e : Element) (defining : Document) :
    inDocument? defining (namesToTry e) = withSignature? (inDefining e defining) := by
  rw [inDefining_eq, withSignature?, List.find?_flatMap]
  rfl

/-! ## The run -/

/-- The run takes the signature of `r` for a call of `e`, and asks for some documents on its way. -/
def Takes (run : Traced RequestError Refined) (e r : Element) (loads : List String) : Prop :=
  ∃ refined, run.outcome = .ok refined ∧ refined.element? e = some r ∧ run.loads = loads

section Run

variable {e : Element} {requestUri : String} {loader : Option Loader}

theorem takes_self (e : Element) : Takes (pure .self) e e [] :=
  ⟨.self, rfl, rfl, rfl⟩

theorem fromDefining_of_not_foreign (h : ¬ IsForeign e requestUri loader) :
    fromDefining e requestUri loader = pure .self := by
  unfold fromDefining
  split
  · rfl
  · next load =>
    rw [if_pos]
    simpa [IsForeign, or_iff_not_imp_left] using h

theorem fromDefining_of_foreign (h : IsForeign e requestUri loader) :
    Takes (fromDefining e requestUri loader) e
      ((withSignature? (elsewhere e requestUri loader)).getD e) [e.uri] := by
  unfold elsewhere
  rw [if_pos h]
  obtain ⟨hloader, hgiven, hother⟩ := h
  obtain ⟨load, rfl⟩ := Option.isSome_iff_exists.mp hloader
  unfold fromDefining
  dsimp only
  rw [if_neg (by simp [hgiven, hother]), Option.bind_some]
  cases load e.uri with
  | none => exact ⟨.self, rfl, rfl, rfl⟩
  | some defining =>
    simp only [inDocument?_namesToTry, Option.map_some, Option.getD_some]
    cases withSignature? (inDefining e defining) with
    | none => exact ⟨.self, rfl, rfl, rfl⟩
    | some r => exact ⟨.other r, rfl, rfl, rfl⟩

theorem refine_of_nearby {kind : Kind} {doc : Document} {r : Element} (htag : e.tag = .known kind)
    (hcallable : kind.isCallable = true) (h : withSignature? (nearby e doc) = some r) :
    Takes (refine e doc requestUri loader) e r [] := by
  unfold refine
  rw [htag]
  dsimp only
  rw [if_neg (by simp [hcallable])]
  unfold nearby at h
  split_ifs with hsigned
  · obtain rfl : e = r := by simpa [withSignature?, hsigned] using h
    exact takes_self e
  · have hbucket : withSignature? (doc.candidates e.name) = some r := by
      simpa [withSignature?, hsigned] using h
    rw [hbucket]
    exact ⟨.other r, rfl, rfl, rfl⟩

theorem refine_of_not_nearby {kind : Kind} {doc : Document} (htag : e.tag = .known kind)
    (hcallable : kind.isCallable = true) (h : withSignature? (nearby e doc) = none) :
    refine e doc requestUri loader = fromDefining e requestUri loader := by
  rw [withSignature?_eq_none, nearby, List.forall_mem_cons, ← withSignature?_eq_none] at h
  unfold refine
  simp [htag, hcallable, h.1, h.2]

theorem refine_of_not_callable (htag : e.tag.isComposite = false) (h : ¬ e.IsCallable)
    (doc : Document) : refine e doc requestUri loader = pure .none := by
  unfold refine
  split
  · next v hraw =>
    have hplain : v.isComposite = false := by simpa [hraw, Tag.isComposite] using htag
    simp [hplain]
  · next kind hkind =>
    rw [if_pos]
    by_contra hcallable
    exact h ⟨kind, hkind, by simpa using hcallable⟩

end Run

/-- The other document is asked for: the element is callable and came from there, and no place at
hand has a signature. -/
structure AsksElsewhere (e : Element) (doc : Document) (requestUri : String)
    (loader : Option Loader) : Prop where
  callable : e.IsCallable
  foreign : IsForeign e requestUri loader
  unsigned : ∀ x ∈ nearby e doc, x.signature = none

theorem refine_of_callable {e : Element} (hcallable : e.IsCallable) (doc : Document)
    (requestUri : String) (loader : Option Loader) :
    ∃ loads, Takes (refine e doc requestUri loader) e
        ((withSignature? (places e doc requestUri loader)).getD e) loads ∧
      (AsksElsewhere e doc requestUri loader → loads = [e.uri]) ∧
      (¬ AsksElsewhere e doc requestUri loader → loads = []) := by
  obtain ⟨kind, htag, hkind⟩ := hcallable
  -- What is at hand comes first in `places`: a signature there ends the search and the run alike.
  unfold places
  rw [withSignature?_append]
  cases hnear : withSignature? (nearby e doc) with
  | some r =>
    refine ⟨[], refine_of_nearby htag hkind hnear, ?_, fun _ => rfl⟩
    intro hasks
    rw [withSignature?_eq_none.mpr hasks.unsigned] at hnear
    cases hnear
  | none =>
    rw [refine_of_not_nearby htag hkind hnear, Option.none_or]
    by_cases hforeign : IsForeign e requestUri loader
    · refine ⟨[e.uri], fromDefining_of_foreign hforeign, fun _ => rfl, ?_⟩
      intro hnot
      exact absurd ⟨⟨kind, htag, hkind⟩, hforeign, withSignature?_eq_none.mp hnear⟩ hnot
    · refine ⟨[], ?_, fun hasks => absurd hasks.foreign hforeign, fun _ => rfl⟩
      rw [fromDefining_of_not_foreign hforeign, elsewhere, if_neg hforeign]
      exact takes_self e

end Refine

open Refine

/-- **The first signature counts.** An element that is not callable is shown without a signature.
Any other is shown with the first signature of all places, and as it is where none has one. The
document that it came from is asked for once where no place at hand has a signature, and not at all
otherwise; no other document is asked for. -/
theorem refine_takes_first_signature (e : Element) (doc : Document) (requestUri : String)
    (loader : Option Loader) (htag : e.tag.isComposite = false) :
    ∃ refined, (refine e doc requestUri loader).outcome = .ok refined ∧
      (refined.element? e = none ↔ ¬ e.IsCallable) ∧
      (∀ r, refined.element? e = some r →
        IsFirstSigned (places e doc requestUri loader) r ∨
          (∀ x ∈ places e doc requestUri loader, x.signature = none) ∧ r = e) ∧
      (AsksElsewhere e doc requestUri loader →
        (refine e doc requestUri loader).loads = [e.uri]) ∧
      (¬ AsksElsewhere e doc requestUri loader → (refine e doc requestUri loader).loads = []) := by
  by_cases hcallable : e.IsCallable
  · obtain ⟨loads, ⟨refined, houtcome, helement, rfl⟩, hasks, hnot⟩ :=
      refine_of_callable hcallable doc requestUri loader
    refine ⟨refined, houtcome, by simp [helement, hcallable], ?_, hasks, hnot⟩
    intro r hr
    rw [helement] at hr
    cases hplaces : withSignature? (places e doc requestUri loader) with
    | some first =>
      obtain rfl : first = r := by simpa [hplaces] using hr
      exact Or.inl (isFirstSigned_of_withSignature? hplaces)
    | none =>
      obtain rfl : e = r := by simpa [hplaces] using hr
      exact Or.inr ⟨withSignature?_eq_none.mp hplaces, rfl⟩
  · rw [refine_of_not_callable htag hcallable]
    refine ⟨.none, rfl, iff_of_true rfl hcallable, ?_, ?_, fun _ => rfl⟩
    · intro r hr
      cases hr
    · intro hasks
      exact absurd hasks.callable hcallable

def importedPing : Element :=
  { name := "ping", tag := .known .importedSub, package := "Net", uri := "net" }

-- A signature without parameters.
def declaredPing : Element :=
  { name := "Net::ping", tag := .known .localSub, signature := some [] }

def pingCaller : Document :=
  { uri := "u", buckets := [("ping", [importedPing])] }

def pingLoader : Loader := fun uri =>
  if uri = "net" then
    some { uri, buckets := [("ping", [importedPing]), ("Net::ping", [declaredPing])] }
  else none

/-- The declaration is found in the other document, under the name with the package. -/
theorem refine_takes_first_signature_elsewhere :
    importedPing.tag.isComposite = false ∧
    AsksElsewhere importedPing pingCaller "u" (some pingLoader) ∧
    (refine importedPing pingCaller "u" (some pingLoader)).outcome = .ok (.other declaredPing) ∧
    IsFirstSigned (places importedPing pingCaller "u" (some pingLoader)) declaredPing ∧
    (refine importedPing pingCaller "u" (some pingLoader)).loads = ["net"] := by
  have hasks : AsksElsewhere importedPing pingCaller "u" (some pingLoader) :=
    ⟨⟨.importedSub, rfl, rfl⟩, by decide, by decide⟩
  have hfound : (refine importedPing pingCaller "u" (some pingLoader)).outcome =
      .ok (.other declaredPing) := rfl
  obtain ⟨refined, houtcome, -, hfirst, hloads, -⟩ :=
    refine_takes_first_signature importedPing pingCaller "u" (some pingLoader) rfl
  obtain rfl : refined = .other declaredPing := by
    rw [houtcome] at hfound
    exact Except.ok.inj hfound
  refine ⟨rfl, hasks, hfound, (hfirst declaredPing rfl).resolve_right ?_, hloads hasks⟩
  rintro ⟨-, hsame⟩
  cases congrArg Element.signature hsame

end PerlSymbols
