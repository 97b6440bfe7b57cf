import Mathlib.Data.List.Forall2
import PerlSymbols.Proofs.Lookup.Names
import PerlSymbols.Proofs.Lookup.Nearest

/-!
# What a lookup returns

Whatever the symbol, a lookup invents nothing: it returns elements of the document, one from a
bucket at most and in the order of the buckets, or the one element that stands for a module. It
returns several only for a method call that no bucket answers, neither under the name it is looked
for nor under the bare name of the method.
-/

namespace PerlSymbols

theorem mem_of_mostRecent? {found : List Element} {line : Int} {e : Element}
    (h : mostRecent? found line = some e) : e ∈ found := by
  match found with
  | [] => simp [mostRecent?] at h
  | first :: others =>
    obtain rfl : mostRecent first others line = e := by simpa [mostRecent?] using h
    by_cases hfirst : first.line ≤ line
    · exact (mostRecent_of_le hfirst others).mem
    · rw [mostRecent_of_lt (by omega)]
      exact List.mem_cons_self

namespace Lookup

/-! ## Elements of the document -/

/-- The elements come from the buckets of the document, at most one from each and in order. -/
def FromBuckets (doc : Document) (found : List Element) : Prop :=
  List.SublistForall₂ (fun e (bucket : String × List Element) => e ∈ bucket.2) found doc.buckets

theorem fromBuckets_nil (doc : Document) : FromBuckets doc [] :=
  .nil

theorem fromBuckets_singleton {doc : Document} {symbol : String} {e : Element}
    (h : e ∈ doc.candidates symbol) : FromBuckets doc [e] := by
  unfold Document.candidates at h
  cases hbucket : doc.buckets.get? symbol with
  | none => simp [hbucket] at h
  | some bucket =>
    rw [hbucket, Option.getD_some] at h
    refine List.sublistForall₂_iff.mpr ⟨[(symbol, bucket)], by simpa using h, ?_⟩
    exact List.singleton_sublist.mpr (Entries.mem_of_get? hbucket)

theorem fromBuckets_anyWithMethod (doc : Document) (method : List Char) :
    FromBuckets doc (anyWithMethod doc method) := by
  unfold FromBuckets anyWithMethod
  induction doc.buckets with
  | nil => exact .nil
  | cons entry rest ih =>
    obtain ⟨name, bucket⟩ := entry
    rw [List.filterMap_cons]
    split
    -- A bucket of another name, or an empty one, is passed over.
    · exact .cons_right ih
    · next e he =>
      refine .cons ?_ ih
      dsimp only at he
      split_ifs at he
      exact List.mem_of_mem_head? he

/-! ## How a lookup ends -/

/-- Under a name, the first element of one bucket is found, or else nothing is, unless the symbol is
a call of a method that is not found by its bare name either. -/
theorem qualifiedCandidates_cases (doc : Document) (symbol name : List Char) :
    (∃ key e rest, doc.candidates key = e :: rest ∧
      qualifiedCandidates doc symbol name = [e]) ∨
    doc.candidates (String.ofList name) = [] ∧
      (qualifiedCandidates doc symbol name = [] ∨
        ['-', '>'] <:+: symbol ∧ doc.candidates (String.ofList (baseName name)) = [] ∧
          qualifiedCandidates doc symbol name = anyWithMethod doc (baseName name)) := by
  unfold qualifiedCandidates
  split
  · next e rest hname => exact Or.inl ⟨_, e, rest, hname, rfl⟩
  · next hname =>
    dsimp only
    split_ifs with hcall hmethod
    · exact Or.inr ⟨hname, Or.inl rfl⟩
    · split
      · next e rest hbare => exact Or.inl ⟨_, e, rest, hbare, rfl⟩
      · next hbare =>
        rw [Bool.and_eq_true, Text.occursIn_iff, Text.occursIn_iff] at hcall
        exact Or.inr ⟨hname, Or.inr ⟨hcall.2, hbare, rfl⟩⟩
    · exact Or.inr ⟨hname, Or.inl rfl⟩

theorem fromBuckets_qualifiedCandidates (doc : Document) (symbol name : List Char) :
    FromBuckets doc (qualifiedCandidates doc symbol name) := by
  obtain ⟨key, e, rest, hkey, h⟩ | ⟨-, h | ⟨-, -, h⟩⟩ := qualifiedCandidates_cases doc symbol name
  · rw [h]
    have he : e ∈ doc.candidates key := by simp [hkey]
    exact fromBuckets_singleton he
  · rw [h]
    exact fromBuckets_nil doc
  · rw [h]
    exact fromBuckets_anyWithMethod doc _

theorem lookup_cases (doc : Document) (modules : ModuleMap) (symbol : String) (line : Int) :
    (∃ e ∈ doc.candidates symbol, lookup doc modules symbol line = .ok [e]) ∨
    doc.candidates symbol = [] ∧
      ((∃ uri, modules.get? symbol = some uri ∧ uri ≠ "" ∧
          lookup doc modules symbol line = .ok [moduleElement symbol uri]) ∨
        (modules.get? symbol).getD "" = "" ∧ lookup doc modules symbol line =
          qualified doc symbol.toList line >>= fun name =>
            .ok (qualifiedCandidates doc symbol.toList name)) := by
  unfold lookup
  split
  · next e he => exact Or.inl ⟨e, mem_of_mostRecent? he, rfl⟩
  · next hnone =>
    rw [mostRecent?_eq_none] at hnone
    refine Or.inr ⟨hnone, ?_⟩
    cases huri : modules.get? symbol with
    | none => exact Or.inr ⟨rfl, by simp [pure, Except.pure]⟩
    | some uri =>
      by_cases hempty : uri = ""
      · exact Or.inr ⟨hempty, by simp [hempty, pure, Except.pure]⟩
      · exact Or.inl ⟨uri, rfl, hempty, by simp [hempty]⟩

/-- The element that stands for a module, and nothing else, is returned for a symbol without a
bucket. -/
def IsModule (doc : Document) (modules : ModuleMap) (symbol : String) (found : List Element) :
    Prop :=
  doc.candidates symbol = [] ∧ ∃ uri, modules.get? symbol = some uri ∧ uri ≠ "" ∧
    found = [{ name := symbol, tag := .known .module, package := symbol, uri, line := 0,
               signature := none }]

/-- **What a lookup returns.** It returns the element of a module, or elements of the document, one
from a bucket at most and in the order of the buckets. It returns none or several only for a symbol
without a bucket and a module, of which the name it is looked for has no bucket either, and several
only for a method call whose method has no bucket. It fails only on a parent that is no text. -/
theorem lookup_returns (doc : Document) (modules : ModuleMap) (symbol : String) (line : Int) :
    (∃ found, lookup doc modules symbol line = .ok found ∧
      (IsModule doc modules symbol found ∨ FromBuckets doc found) ∧
      (found.length ≠ 1 → doc.candidates symbol = [] ∧ (modules.get? symbol).getD "" = "" ∧
        ∃ name, qualified doc symbol.toList line = .ok name ∧
          doc.candidates (String.ofList name) = [] ∧
          (2 ≤ found.length → ['-', '>'] <:+: symbol.toList ∧
            doc.candidates (String.ofList (baseName name)) = []))) ∨
    Fails (lookup doc modules symbol line) ∧ BadParent doc symbol line := by
  obtain ⟨e, he, hlookup⟩ | ⟨hbucket, ⟨uri, huri, hne, hlookup⟩ | ⟨hmodule, hlookup⟩⟩ :=
    lookup_cases doc modules symbol line
  · exact Or.inl ⟨[e], hlookup, Or.inr (fromBuckets_singleton he), by simp⟩
  · exact Or.inl ⟨_, hlookup, Or.inl ⟨hbucket, uri, huri, hne, rfl⟩, by simp⟩
  · cases hname : qualified doc symbol.toList line with
    | error err =>
      rw [hname] at hlookup
      exact Or.inr ⟨⟨err, hlookup⟩, (qualified_fails_iff doc symbol line).mp ⟨err, hname⟩⟩
    | ok name =>
      rw [hname] at hlookup
      refine Or.inl ⟨_, hlookup, Or.inr (fromBuckets_qualifiedCandidates doc _ name), ?_⟩
      intro hlength
      refine ⟨hbucket, hmodule, name, rfl, ?_⟩
      obtain ⟨key, e, rest, -, h⟩ | ⟨hempty, h | ⟨harrow, hbare, -⟩⟩ :=
        qualifiedCandidates_cases doc symbol.toList name
      · simp [h] at hlength
      · exact ⟨hempty, by simp [h]⟩
      · exact ⟨hempty, fun _ => ⟨harrow, hbare⟩⟩

-- Two packages have the method, and nothing tells them apart.
example (a b : Element) :
    lookup { uri := "u", buckets := [("A::run", [a]), ("B::run", [b, a])] } [] "$x->run" 0 =
      .ok [a, b] := rfl

end Lookup

end PerlSymbols
