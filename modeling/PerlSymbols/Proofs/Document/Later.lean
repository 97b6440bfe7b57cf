import PerlSymbols.Proofs.Document.EmptyBuckets
import PerlSymbols.Proofs.Lookup.Calls

/-!
# Later declarations

Another declaration of a name goes to the end of a bucket that is there. A symbol reads its own
bucket as a whole, since the line decides there, and a call through `SUPER` reads that of its
invocant. Of all other buckets only the first element counts, so that later ones go unnoticed. An
outline reads nothing but first elements.
-/

namespace PerlSymbols

theorem Entries.map_put {κ α β : Type} [DecidableEq κ] {m : Entries κ α} {k : κ} {a b : α}
    (hget : m.get? k = some b) {f : α → β} (hf : f a = f b) :
    (m.put k a).map (fun entry => (entry.1, f entry.2)) =
      m.map fun entry => (entry.1, f entry.2) := by
  induction m with
  | nil => simp [get?] at hget
  | cons entry rest ih =>
    obtain ⟨j, c⟩ := entry
    unfold get? at hget
    unfold put
    split_ifs at hget ⊢
    -- The entry that is replaced, and those before it.
    · simp [hf, Option.some.inj hget]
    · simp [ih hget]

namespace Document

/-- The first element of each bucket. -/
def heads (doc : Document) : Entries String (Option Element) :=
  doc.buckets.map fun entry => (entry.1, entry.2.head?)

theorem head?_candidates (doc : Document) (symbol : String) :
    (doc.candidates symbol).head? = (doc.heads.get? symbol).join := by
  unfold heads candidates
  rw [Entries.get?_map doc.buckets (fun _ bucket => bucket.head?)]
  cases doc.buckets.get? symbol <;> rfl

/-- The documents differ at most in what comes after the first element of a bucket. -/
structure SameHeads (doc doc' : Document) : Prop where
  heads : doc'.heads = doc.heads
  canonical : doc'.canonical = doc.canonical
  parents : doc'.parents = doc.parents

theorem SameHeads.candidates_cases {doc doc' : Document} (h : SameHeads doc doc')
    (symbol : String) :
    doc.candidates symbol = [] ∧ doc'.candidates symbol = [] ∨
    ∃ e rest rest', doc.candidates symbol = e :: rest ∧ doc'.candidates symbol = e :: rest' := by
  have hhead : (doc'.candidates symbol).head? = (doc.candidates symbol).head? := by
    rw [head?_candidates, h.heads, head?_candidates]
  cases hold : doc.candidates symbol with
  | nil =>
    rw [hold, List.head?_nil, List.head?_eq_none_iff] at hhead
    exact Or.inl ⟨rfl, hhead⟩
  | cons e rest =>
    rw [hold, List.head?_cons, List.head?_eq_some_iff] at hhead
    obtain ⟨rest', hnew⟩ := hhead
    exact Or.inr ⟨e, rest, rest', rfl, hnew⟩

theorem candidates_addElement (doc : Document) (e : Element) (symbol : String) :
    (doc.addElement e).candidates symbol =
      if e.name = symbol then doc.candidates symbol ++ [e] else doc.candidates symbol := by
  unfold candidates addElement addTo
  rw [Entries.get?_put]
  split_ifs with hname
  · rw [hname, Option.getD_some]
  · rfl

theorem sameHeads_addElement {doc : Document} {e : Element} (h : doc.candidates e.name ≠ []) :
    SameHeads doc (doc.addElement e) := by
  refine ⟨?_, rfl, rfl⟩
  unfold candidates at h
  cases hbucket : doc.buckets.get? e.name with
  | none => simp [hbucket] at h
  | some bucket =>
    simp only [hbucket, Option.getD_some] at h
    unfold heads addElement addTo
    apply Entries.map_put hbucket
    rw [hbucket, Option.getD_some, List.head?_append_of_ne_nil _ h]

end Document

/-! ## Calls through `SUPER` -/

namespace Lookup

open Cursor (Word)

/-- A call through `SUPER` on a variable. The word ends there. -/
def IsSuperCall (v : Word) (symbol : List Char) : Prop :=
  ∃ rest, symbol = scalar v ++ "->SUPER".toList ++ rest ∧ rest.head?.any Text.isWord = false

theorem splitInvocant?_eq_some {symbol invocant after : List Char}
    (h : splitInvocant? symbol = some (invocant, after)) :
    ∃ v : Word, invocant = scalar v ∧ symbol = scalar v ++ '-' :: '>' :: after := by
  unfold splitInvocant? at h
  split at h
  · next rest =>
    dsimp only at h
    split at h
    · next after' hafter =>
      split_ifs at h with hempty
      obtain ⟨rfl, rfl⟩ : '$' :: rest.takeWhile Text.isWord = invocant ∧ after' = after := by
        simpa using h
      refine ⟨⟨rest.takeWhile Text.isWord, by simpa using hempty, ?_⟩, rfl, ?_⟩
      · intro c hc
        exact List.mem_takeWhile_imp hc
      · rw [← hafter, scalar, List.cons_append, List.takeWhile_append_dropWhile]
    · cases h
  · cases h

theorem isSuperCall_of_superCall? {symbol invocant rest : List Char}
    (h : superCall? symbol = some (invocant, rest)) :
    ∃ v, invocant = scalar v ∧ IsSuperCall v symbol := by
  unfold superCall? at h
  simp only [Option.bind_eq_bind, Option.bind_eq_some_iff, Prod.exists] at h
  obtain ⟨invocant', after, hsplit, rest', hafter, h⟩ := h
  obtain ⟨v, rfl, rfl⟩ := splitInvocant?_eq_some hsplit
  rw [Text.after?_eq_some_iff] at hafter
  split_ifs at h with hword
  obtain ⟨rfl, rfl⟩ : scalar v = invocant ∧ rest' = rest := by simpa using h
  exact ⟨v, rfl, rest', by simp [hafter], by simpa using hword⟩

/-! ## The readers -/

section Readers

variable {doc doc' : Document} (h : Document.SameHeads doc doc')

include h

theorem anyWithMethod_sameHeads (method : List Char) :
    anyWithMethod doc' method = anyWithMethod doc method := by
  have hheads : ∀ doc : Document, anyWithMethod doc method = doc.heads.filterMap fun (name, head) =>
      if baseName name.toList = method then head else none := by
    intro doc
    rw [anyWithMethod, Document.heads, List.filterMap_map]
    rfl
  rw [hheads, h.heads, hheads]

theorem qualifiedCandidates_sameHeads (symbol name : List Char) :
    qualifiedCandidates doc' symbol name = qualifiedCandidates doc symbol name := by
  unfold qualifiedCandidates
  obtain ⟨hold, hnew⟩ | ⟨e, rest, rest', hold, hnew⟩ := h.candidates_cases (String.ofList name)
  · rw [hold, hnew]
    dsimp only
    obtain ⟨hold, hnew⟩ | ⟨e, rest, rest', hold, hnew⟩ :=
      h.candidates_cases (String.ofList (baseName name))
    · rw [hold, hnew, anyWithMethod_sameHeads h]
    · rw [hold, hnew]
  · rw [hold, hnew]

theorem qualified_sameHeads {symbol : List Char}
    (hinvocant : ∀ v, IsSuperCall v symbol →
      doc'.candidates (String.ofList (scalar v)) = doc.candidates (String.ofList (scalar v)))
    (line : Int) : qualified doc' symbol line = qualified doc symbol line := by
  have hsuper : qualifySuper doc' symbol line = qualifySuper doc symbol line := by
    unfold qualifySuper
    split
    · rfl
    · next invocant rest hcall =>
      obtain ⟨v, rfl, hv⟩ := isSuperCall_of_superCall? hcall
      rw [parentOf, parentOf, hinvocant v hv, h.parents]
  unfold qualified qualifyObject
  rw [hsuper, h.canonical]

end Readers

end Lookup

section Readers

variable {doc doc' : Document} (h : Document.SameHeads doc doc')

include h

theorem lookup_sameHeads {symbol : String} (hown : doc'.candidates symbol = doc.candidates symbol)
    (hinvocant : ∀ v, Lookup.IsSuperCall v symbol.toList →
      doc'.candidates (String.ofList (Lookup.scalar v)) =
        doc.candidates (String.ofList (Lookup.scalar v)))
    (modules : ModuleMap) (line : Int) :
    lookup doc' modules symbol line = lookup doc modules symbol line := by
  unfold lookup
  rw [hown, Lookup.qualified_sameHeads h hinvocant]
  simp only [Lookup.qualifiedCandidates_sameHeads h]

theorem resolve_sameHeads {symbol : String} (hown : doc'.candidates symbol = doc.candidates symbol)
    (hinvocant : ∀ v, Lookup.IsSuperCall v symbol.toList →
      doc'.candidates (String.ofList (Lookup.scalar v)) =
        doc.candidates (String.ofList (Lookup.scalar v)))
    (modules : ModuleMap) (line : Int) :
    resolve doc' modules symbol line = resolve doc modules symbol line := by
  unfold resolve
  rw [h.canonical, lookup_sameHeads h hown hinvocant]

omit h in
theorem Outline.ofDocument_heads (uri : String) (doc : Document) :
    Outline.ofDocument uri doc =
      Outline.ofBuckets uri (doc.heads.map fun entry => (entry.1, entry.2.toList)) := by
  rw [Outline.ofDocument, Document.heads, List.map_map]
  induction doc.buckets with
  | nil => rfl
  | cons entry rest ih =>
    obtain ⟨name, bucket⟩ := entry
    rw [List.map_cons, Outline.ofBuckets, ih]
    cases bucket <;> rfl

theorem Outline.ofDocument_sameHeads (uri : String) :
    Outline.ofDocument uri doc' = Outline.ofDocument uri doc := by
  rw [Outline.ofDocument_heads, h.heads, Outline.ofDocument_heads]

theorem Room.outlined_sameHeads (uri : String) :
    Room.outlined uri doc' = Room.outlined uri doc := by
  rw [Room.outlined, Room.outlined, Outline.ofDocument_sameHeads h]

end Readers

/-! ## The theorem -/

/-- **Later declarations go unnoticed.** An element that joins a filled bucket, other than that of
the symbol and that of the invocant of a call through `SUPER`, changes no lookup, and no element
that joins a filled bucket changes an outline, also where a request for it is on its way. -/
theorem later_declarations_unnoticed (doc : Document) (e : Element)
    (hfilled : doc.candidates e.name ≠ []) :
    (doc.addElement e).candidates e.name = doc.candidates e.name ++ [e] ∧
    (∀ modules symbol line, e.name ≠ symbol →
      (∀ v, Lookup.IsSuperCall v symbol.toList → e.name ≠ String.ofList (Lookup.scalar v)) →
      lookup (doc.addElement e) modules symbol line = lookup doc modules symbol line ∧
      resolve (doc.addElement e) modules symbol line = resolve doc modules symbol line) ∧
    (∀ uri, Outline.ofDocument uri (doc.addElement e) = Outline.ofDocument uri doc) ∧
    (∀ index uri (patience : Patience Seconds), Index.get? index uri = some doc →
      Room.outlineOf { index with docs := index.docs.put uri (doc.addElement e) } uri patience =
        Room.outlineOf index uri patience) ∧
    (∀ answer answer' uri (patience : Patience Seconds),
      (∀ n, answer' n = answer n ∨ answer n = some doc ∧ answer' n = some (doc.addElement e)) →
      (Polling.outline answer' uri patience).2 = (Polling.outline answer uri patience).2) := by
  have hsame := Document.sameHeads_addElement hfilled
  have hother : ∀ symbol, e.name ≠ symbol →
      (doc.addElement e).candidates symbol = doc.candidates symbol := by
    intro symbol hne
    rw [Document.candidates_addElement, if_neg hne]
  refine ⟨?_, ?_, ?_, ?_, ?_⟩
  · rw [Document.candidates_addElement, if_pos rfl]
  · intro modules symbol line hne hinvocant
    have hcall := fun v hv => hother _ (hinvocant v hv)
    exact ⟨lookup_sameHeads hsame (hother symbol hne) hcall modules line,
      resolve_sameHeads hsame (hother symbol hne) hcall modules line⟩
  · exact Outline.ofDocument_sameHeads hsame
  · intro index uri patience hdoc
    apply Room.outlineOf_congr
    rw [hdoc, Index.get?, Entries.get?_put, if_pos rfl]
    simp [Room.outlined_sameHeads hsame]
  · intro answer answer' uri patience hanswers
    apply Polling.outline_congr
    intro n
    rcases hanswers n with hn | ⟨hn, hn'⟩
    · rw [hn]
    · simp [hn, hn', Room.outlined_sameHeads hsame]

def parentRun (line : Int) : Element :=
  { name := "Base::run", tag := .known .localSub, line }

def childDocument : Document where
  uri := "u"
  buckets := [("$self", [{ name := "$self", tag := .known .localVar, package := "Child" }]),
    ("Base::run", [parentRun 4])]
  parents := [(.text "Child", .text "Base")]

/-- The sub of the parent is declared once more, below the call that finds it. -/
theorem later_declarations_unnoticed_super :
    childDocument.candidates "Base::run" = [parentRun 4] ∧
    (childDocument.addElement (parentRun 9)).candidates "Base::run" = [parentRun 4, parentRun 9] ∧
    lookup (childDocument.addElement (parentRun 9)) [] "$self->SUPER::run" 7 =
      .ok [parentRun 4] ∧
    Outline.ofDocument "u" (childDocument.addElement (parentRun 9)) =
      .ok [⟨"Base::run", .function, ⟨"u", ⟨4, 0⟩, ⟨4, 100⟩⟩⟩] := by
  have hfilled : childDocument.candidates "Base::run" ≠ [] := List.cons_ne_nil _ _
  have hfound : lookup childDocument [] "$self->SUPER::run" 7 = .ok [parentRun 4] := rfl
  have hinvocant : ∀ v, Lookup.IsSuperCall v "$self->SUPER::run".toList →
      "Base::run" ≠ String.ofList (Lookup.scalar v) := by
    intro v _ hname
    have hchars := congrArg String.toList hname
    simp [Lookup.scalar] at hchars
  obtain ⟨hstored, hlookup, houtline, -⟩ :=
    later_declarations_unnoticed childDocument (parentRun 9) hfilled
  refine ⟨rfl, hstored, ?_, ?_⟩
  · rw [(hlookup [] "$self->SUPER::run" 7 (by decide) hinvocant).1, hfound]
  · rw [houtline "u"]
    rfl

end PerlSymbols
