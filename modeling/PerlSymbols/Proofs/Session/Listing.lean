import PerlSymbols.Outline

/-!
# When a listing fails

A listing of modules never fails. An outline fails exactly on an element at the head of its bucket
whose tag is a list or a map, or which is to be listed and has a line that no position has.
-/

namespace PerlSymbols

def Fails {ε α : Type} (x : Except ε α) : Prop :=
  ∃ e, x = .error e

section Fails

variable {ε ε' α β : Type}

@[simp]
theorem fails_ok (a : α) : Fails (.ok a : Except ε α) ↔ False := by
  simp [Fails]

@[simp]
theorem fails_pure (a : α) : Fails (pure a : Except ε α) ↔ False :=
  fails_ok a

@[simp]
theorem fails_error (e : ε) : Fails (.error e : Except ε α) ↔ True := by
  simp [Fails]

theorem fails_bind {x : Except ε α} {f : α → Except ε β} :
    Fails (x >>= f) ↔ Fails x ∨ ∃ a, x = .ok a ∧ Fails (f a) := by
  cases x with
  | ok a => simp [bind, Except.bind]
  | error e => simp [bind, Except.bind]

theorem fails_bind_const {x : Except ε α} {f : α → Except ε β} {P : Prop}
    (h : ∀ a, Fails (f a) ↔ P) : Fails (x >>= f) ↔ Fails x ∨ P := by
  cases x with
  | ok a => simp [bind, Except.bind, h]
  | error e => simp [bind, Except.bind]

theorem fails_bind_total {x : Except ε α} {f : α → Except ε β} (h : ∀ a, ¬ Fails (f a)) :
    Fails (x >>= f) ↔ Fails x :=
  (fails_bind_const fun a => iff_false_intro (h a)).trans (by rw [or_false])

theorem fails_bind_pure {x : Except ε α} {f : α → β} :
    Fails (x >>= fun a => pure (f a)) ↔ Fails x :=
  fails_bind_total fun a => by simp

@[simp]
theorem fails_mapError {x : Except ε α} {f : ε → ε'} : Fails (x.mapError f) ↔ Fails x := by
  cases x with
  | ok a =>
    show Fails (.ok a : Except ε' α) ↔ _
    simp
  | error e =>
    show Fails (.error (f e) : Except ε' α) ↔ _
    simp

theorem not_fails_iff {x : Except ε α} : ¬ Fails x ↔ ∃ a, x = .ok a := by
  cases x with
  | ok a => simp
  | error e => simp

theorem fails_mapM {f : α → Except ε β} {xs : List α} :
    Fails (xs.mapM f) ↔ ∃ x ∈ xs, Fails (f x) := by
  induction xs with
  | nil => simp
  | cons x xs ih =>
    rw [List.mapM_cons, fails_bind_const fun _ => fails_bind_pure.trans ih]
    simp

end Fails

/-! ## Locations -/

theorem Position.coordinate_fails_iff (which : Coordinate) (n : Int) :
    Fails (Position.coordinate which (.int n)) ↔ ¬ (0 ≤ n ∧ n ≤ Position.limit) := by
  cases n with
  | ofNat n =>
    simp only [coordinate]
    split
    · next h => simp; omega
    · next h => simp; omega
  | negSucc n => simp [coordinate]

theorem Position.ofValues_fails_iff (line character : Int) :
    Fails (Position.ofValues (.int line) (.int character)) ↔
      ¬ (0 ≤ line ∧ line ≤ Position.limit) ∨ ¬ (0 ≤ character ∧ character ≤ Position.limit) := by
  rw [← coordinate_fails_iff .line, ← coordinate_fails_iff .character]
  exact fails_bind_const fun n => fails_bind_pure

theorem Location.ofLine_fails_iff (uri : String) (line : Int) :
    Fails (Location.ofLine uri (.int line)) ↔ ¬ (0 ≤ line ∧ line ≤ Position.limit) := by
  have hlast : ¬ ¬ ((0 : Int) ≤ Location.lastCharacter ∧
      (Location.lastCharacter : Int) ≤ Position.limit) := by decide
  have hzero : ¬ ¬ ((0 : Int) ≤ 0 ∧ (0 : Int) ≤ Position.limit) := by decide
  have hfails := fails_bind_const (x := Position.ofValues (.int line) (.int 0)) fun start =>
    fails_bind_pure (x := Position.ofValues (.int line) (.int Location.lastCharacter))
      (f := fun stop => (⟨uri, start, stop⟩ : Location))
  rw [Position.ofValues_fails_iff, Position.ofValues_fails_iff] at hfails
  refine hfails.trans ?_
  omega

/-! ## Outlines -/

/-- An element that makes the outline of its document fail. -/
def Element.Unlistable (e : Element) : Prop :=
  (∃ v, e.tag = .raw v ∧ v.isComposite = true) ∨
    ∃ kind, e.tag = .known kind ∧ kind.isOutlined = true ∧
      ¬ (0 ≤ e.line ∧ e.line ≤ Position.limit)

namespace Outline

theorem entry_fails_iff (uri name : String) (bucket : List Element) :
    Fails ( entry? uri name bucket) ↔ ∃ e rest, bucket = e :: rest ∧ e.Unlistable := by
  cases bucket with
  | nil => simp [ entry?]
  | cons e rest =>
    rw [ entry?]
    split
    · next v htag =>
      split
      · next hv => simp [Element.Unlistable, htag, hv]
      · next hv => simp [Element.Unlistable, htag, hv]
    · next kind htag =>
      split
      · next hk => simp_all [Element.Unlistable]
      · next hk =>
        rw [fails_bind_pure, fails_mapError, Location.ofLine_fails_iff]
        simp_all [Element.Unlistable]

theorem ofBuckets_fails_iff (uri : String) (buckets : Entries String (List Element)) :
    Fails (ofBuckets uri buckets) ↔
      ∃ name e rest, (name, e :: rest) ∈ buckets ∧ e.Unlistable := by
  induction buckets with
  | nil => simp [ofBuckets]
  | cons head others ih =>
    obtain ⟨name, bucket⟩ := head
    rw [ofBuckets, fails_bind_const fun _ => fails_bind_pure.trans ih, entry_fails_iff]
    constructor
    · rintro (⟨e, rest, rfl, he⟩ | ⟨name', e, rest, hm, he⟩)
      · exact ⟨name, e, rest, List.mem_cons_self, he⟩
      · exact ⟨name', e, rest, List.mem_cons_of_mem _ hm, he⟩
    · rintro ⟨name', e, rest, hm, he⟩
      rcases List.mem_cons.mp hm with hm | hm
      · cases hm
        exact Or.inl ⟨e, rest, rfl, he⟩
      · exact Or.inr ⟨name', e, rest, hm, he⟩

theorem ofDocument_fails_iff (uri : String) (doc : Document) :
    Fails (ofDocument uri doc) ↔
      ∃ name e rest, (name, e :: rest) ∈ doc.buckets ∧ e.Unlistable :=
  ofBuckets_fails_iff uri doc.buckets

/-! ## Modules -/

theorem ofModules_eq (query : String) (modules : ModuleMap) :
    ofModules query modules = .ok (modules.map fun (name, uri) =>
      { name, sort := .module, location := ⟨uri, ⟨0, 0⟩, ⟨0, Location.lastCharacter⟩⟩ }) := by
  induction modules with
  | nil => rfl
  | cons head others ih =>
    simp only [ofModules, List.mapM_cons] at ih ⊢
    rw [ih]
    rfl

end Outline

end PerlSymbols
