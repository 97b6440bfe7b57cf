import PerlSymbols.Settings.Merge
import Mathlib.Data.List.Nodup

/-!
# Merged settings, key by key

A map can be looked at one key at a time if the key stands in it once, and nothing else in it is
alike. Then what is under the key after a merge is settled by what was under it before.
-/

namespace PerlSymbols

namespace Entries

variable {κ α : Type} [DecidableEq κ]

/-- The key stands in at most one entry. -/
def Once (k : κ) (m : Entries κ α) : Prop :=
  m.keys.count k ≤ 1

theorem once_nil (k : κ) : Once k ([] : Entries κ α) := by
  simp [Once, keys]

theorem once_of_nodup {m : Entries κ α} (h : m.keys.Nodup) (k : κ) : Once k m :=
  List.nodup_iff_count_le_one.mp h k

theorem count_put (m : Entries κ α) (k j : κ) (a : α) :
    (m.put j a).keys.count k = if j = k then max 1 (m.keys.count k) else m.keys.count k := by
  induction m with
  | nil =>
    by_cases hj : j = k <;> simp [put, keys, hj]
  | cons entry rest ih =>
    obtain ⟨i, b⟩ := entry
    by_cases hi : i = j
    · subst hi
      by_cases hk : i = k <;> simp [put, keys, hk]
    · have hput : (put ((i, b) :: rest) j a) = (i, b) :: put rest j a := by simp [put, hi]
      rw [hput]
      by_cases hk : i = k
      · subst hk
        simp only [keys, List.map_cons, List.count_cons_self] at ih ⊢
        rw [ih]
        simp [Ne.symm hi]
      · simp only [keys, List.map_cons] at ih ⊢
        rw [List.count_cons_of_ne hk, List.count_cons_of_ne hk, ih]

theorem Once.put {k : κ} {m : Entries κ α} (h : Once k m) (j : κ) (a : α) : Once k (m.put j a) := by
  unfold Once at h ⊢
  rw [count_put]
  split <;> omega

end Entries

/-! ## Keys that are alike -/

namespace Key

open Entries

/-- At most one key of the map is like the given one. -/
def Single (k : Key) (m : Entries Key Value) : Prop :=
  m.keys.countP (·.alike k) ≤ 1

theorem single_text {name : String} {m : Entries Key Value} :
    Single (.text name) m ↔ Once (.text name) m := by
  unfold Single Once List.count
  rw [List.countP_congr fun k _ => (alike_text (k := k) (s := name)).trans beq_iff_eq.symm]

theorem getAlike?_eq_none {m : Entries Key Value} {k : Key} :
    getAlike? m k = none ↔ m.keys.countP (·.alike k) = 0 := by
  simp [getAlike?, keys]

theorem single_cons {k j : Key} {v : Value} {rest : Entries Key Value} :
    Single k ((j, v) :: rest) ↔ if j.alike k then getAlike? rest k = none else Single k rest := by
  rw [getAlike?_eq_none]
  split
  · next hj => simp [Single, keys, hj]
  · next hj => simp [Single, keys, hj]

theorem keys_putAlike (m : Entries Key Value) (k : Key) (v : Value) :
    (putAlike m k v).keys = if m.keys.any (·.alike k) then m.keys else m.keys ++ [k] := by
  induction m with
  | nil => rfl
  | cons entry rest ih =>
    obtain ⟨j, a⟩ := entry
    by_cases hj : j.alike k = true
    · simp [putAlike, keys, hj]
    · simp only [keys] at ih
      simp only [putAlike, keys, hj, Bool.false_eq_true, if_false, List.map_cons, ih, List.any_cons,
        Bool.false_or]
      exact apply_ite (j :: ·) _ _ _

theorem Single.putAlike {k : Key} {m : Entries Key Value} (h : Single k m) (j : Key) (v : Value) :
    Single k (putAlike m j v) := by
  unfold Single at h ⊢
  rw [keys_putAlike]
  split
  · exact h
  · next hnone =>
    rw [List.countP_append, List.countP_singleton]
    split
    · next hj =>
      -- What is like `k` is like `j` too, and nothing is.
      have hzero : m.keys.countP (·.alike k) = 0 := by
        rw [List.countP_eq_zero]
        intro i hi hik
        rw [alike_comm, ← alike_congr hj, alike_comm] at hik
        exact hnone (List.any_eq_true.mpr ⟨i, hi, hik⟩)
      omega
    · exact h

/-- The condition does not tell keys apart that are alike. -/
def Respects (p : Key → Bool) : Prop :=
  ∀ ⦃a b : Key⦄, a.alike b = true → p a = p b

variable {p : Key → Bool}

/-- Only texts are told apart, and a text is like nothing else. -/
theorem respects_of_const {b : Bool} (h : ∀ k, (∀ s, k ≠ .text s) → p k = b) : Respects p := by
  intro a c halike
  by_cases ha : ∃ s, a = .text s
  · obtain ⟨s, rfl⟩ := ha
    rw [alike_comm, alike_text] at halike
    rw [halike]
  · by_cases hc : ∃ s, c = .text s
    · obtain ⟨s, rfl⟩ := hc
      exact absurd ⟨s, alike_text.mp halike⟩ ha
    · rw [h a (by simpa using ha), h c (by simpa using hc)]

variable (hp : Respects p)

include hp

theorem getAlike?_filter {k : Key} (h : p k = true) (m : Entries Key Value) :
    getAlike? (m.filter fun entry => p entry.1) k = getAlike? m k := by
  induction m with
  | nil => rfl
  | cons entry rest ih =>
    by_cases hk : p entry.1 = true
    · simp [hk, getAlike?_cons, ih]
    · have hne : ¬ entry.1.alike k = true := fun halike => hk (hp halike ▸ h)
      simp [hk, getAlike?_cons, ih, hne]

theorem filter_putAlike (m : Entries Key Value) (k : Key) (v : Value) :
    (putAlike m k v).filter (fun entry => p entry.1) =
      if p k then putAlike (m.filter fun entry => p entry.1) k v
      else m.filter fun entry => p entry.1 := by
  induction m with
  | nil => by_cases hk : p k = true <;> simp [putAlike, hk]
  | cons entry rest ih =>
    obtain ⟨j, a⟩ := entry
    by_cases hj : j.alike k = true
    · have hjk := hp hj
      by_cases hk : p k = true <;> simp [putAlike, hj, hjk, hk]
    · by_cases hpj : p j = true
      · by_cases hk : p k = true <;> simp [putAlike, hj, hpj, hk, ih]
      · by_cases hk : p k = true <;> simp [putAlike, hj, hpj, hk, ih]

end Key

namespace Settings

open Entries

/-- What is under a key of two maps that are laid over each other. -/
def atop (lower : Option Value) : Option Value → Option Value
  | none => lower
  | some v => some (overlay lower v)

theorem overlay_none (v : Value) : overlay none v = v := by
  cases v <;> simp [overlay]

@[simp]
theorem atop_none_left (upper : Option Value) : atop none upper = upper := by
  cases upper with
  | none => rfl
  | some v => simp [atop, overlay_none]

@[simp]
theorem atop_none_right (lower : Option Value) : atop lower none = lower := rfl

/-- What is no map hides everything below it. -/
theorem overlay_of_not_map (lower : Option Value) {v : Value} (h : ∀ m, v ≠ .map m) :
    overlay lower v = v := by
  cases v with
  | map m => exact absurd rfl (h m)
  | null | bool | int | float | text | stamp | list => simp [overlay]

theorem atop_of_not_map (lower : Option Value) {v : Value} (h : ∀ m, v ≠ .map m) :
    atop lower (some v) = some v :=
  congrArg some (overlay_of_not_map lower h)

theorem merge_getAlike?_of_none {k : Key} {upper : Entries Key Value}
    (h : Key.getAlike? upper k = none) (lower : Entries Key Value) :
    Key.getAlike? (merge lower upper) k = Key.getAlike? lower k := by
  induction upper generalizing lower with
  | nil => simp [merge]
  | cons entry rest ih =>
    obtain ⟨j, v⟩ := entry
    rw [Key.getAlike?_cons] at h
    split at h
    · cases h
    · next hj => simp [merge, ih h, Key.getAlike?_putAlike, hj]

/-- **A merge, key by key.** -/
theorem merge_getAlike? {k : Key} {upper : Entries Key Value} (h : Key.Single k upper)
    (lower : Entries Key Value) :
    Key.getAlike? (merge lower upper) k =
      atop (Key.getAlike? lower k) (Key.getAlike? upper k) := by
  induction upper generalizing lower with
  | nil => simp [merge]
  | cons entry rest ih =>
    obtain ⟨j, v⟩ := entry
    rw [Key.single_cons] at h
    rw [merge, Key.getAlike?_cons]
    split at h
    · next hj =>
      have hsame : Key.getAlike? lower j = Key.getAlike? lower k := by
        simp only [Key.getAlike?, Key.alike_iff.mp hj, Key.alike]
      rw [merge_getAlike?_of_none h, Key.getAlike?_putAlike, if_pos hj, if_pos hj, hsame]
      rfl
    · next hj => rw [ih h, Key.getAlike?_putAlike, if_neg hj, if_neg hj]

theorem merge_get? {name : String} {upper : Entries Key Value} (h : Once (.text name) upper)
    (lower : Entries Key Value) :
    (merge lower upper).get? (.text name) =
      atop (lower.get? (.text name)) (upper.get? (.text name)) := by
  simp only [← Key.getAlike?_text]
  exact merge_getAlike? (Key.single_text.mpr h) lower

theorem single_merge {k : Key} {lower : Entries Key Value} (h : Key.Single k lower)
    (upper : Entries Key Value) : Key.Single k (merge lower upper) := by
  induction upper generalizing lower with
  | nil => simpa [merge] using h
  | cons entry rest ih =>
    obtain ⟨j, v⟩ := entry
    rw [merge]
    exact ih (h.putAlike j _)

theorem once_merge {name : String} {lower : Entries Key Value} (h : Once (.text name) lower)
    (upper : Entries Key Value) : Once (.text name) (merge lower upper) :=
  Key.single_text.mp (single_merge (Key.single_text.mpr h) upper)

theorem filter_merge {p : Key → Bool} (hp : Key.Respects p) (lower upper : Entries Key Value) :
    (merge lower upper).filter (fun entry => p entry.1) =
      merge (lower.filter fun entry => p entry.1) (upper.filter fun entry => p entry.1) := by
  induction upper generalizing lower with
  | nil => simp [merge]
  | cons entry rest ih =>
    obtain ⟨j, v⟩ := entry
    by_cases hj : p j = true
    · simp [merge, ih, Key.filter_putAlike hp, hj, Key.getAlike?_filter hp hj]
    · simp [merge, ih, Key.filter_putAlike hp, hj]

theorem exists_key_merge {p : Key → Bool} (hp : Key.Respects p) (lower upper : Entries Key Value) :
    (∃ k ∈ (merge lower upper).keys, p k = true) ↔
      (∃ k ∈ lower.keys, p k = true) ∨ ∃ k ∈ upper.keys, p k = true := by
  induction upper generalizing lower with
  | nil => simp [merge, keys]
  | cons entry rest ih =>
    obtain ⟨j, v⟩ := entry
    have hput : (∃ k ∈ (Key.putAlike lower j (overlay (Key.getAlike? lower j) v)).keys,
        p k = true) ↔ (∃ k ∈ lower.keys, p k = true) ∨ p j = true := by
      rw [Key.keys_putAlike]
      split
      · next hany =>
        obtain ⟨k, hk, halike⟩ := List.any_eq_true.mp hany
        exact ⟨Or.inl, fun h => h.elim id fun hj => ⟨k, hk, hp halike ▸ hj⟩⟩
      · simp [or_and_right, exists_or]
    rw [merge, ih, hput]
    simp only [keys, List.map_cons, List.mem_cons, or_and_right, exists_or, exists_eq_left, or_assoc]

/-! ## Sections -/

/-- A section that is not given, or a map in which a field stands once. -/
def IsSection (field : String) (given : Option Value) : Prop :=
  ∀ v, given = some v → ∃ m, v = .map m ∧ Once (.text field) m

/-- The value of a field of a section. -/
def fieldOf (field : String) (given : Option Value) : Option Value :=
  given.bind fun v => v.field? field

theorem IsSection.atop {field : String} {lower upper : Option Value} (hl : IsSection field lower)
    (hu : IsSection field upper) : IsSection field (atop lower upper) := by
  intro v hv
  cases upper with
  | none => exact hl v hv
  | some u =>
    obtain ⟨m, rfl, hm⟩ := hu u rfl
    cases lower with
    | none =>
      rw [atop_none_left] at hv
      exact hu v hv
    | some l =>
      obtain ⟨n, rfl, hn⟩ := hl l rfl
      simp only [Settings.atop, overlay, Option.some.injEq] at hv
      exact ⟨_, hv.symm, once_merge hn m⟩

/-- Sections are laid over each other field by field. -/
theorem fieldOf_atop {field : String} {lower upper : Option Value} (hl : IsSection field lower)
    (hu : IsSection field upper) :
    fieldOf field (atop lower upper) = atop (fieldOf field lower) (fieldOf field upper) := by
  cases upper with
  | none => rfl
  | some u =>
    obtain ⟨m, rfl, hm⟩ := hu u rfl
    cases lower with
    | none => simp [fieldOf]
    | some l =>
      obtain ⟨n, rfl, -⟩ := hl l rfl
      simp only [fieldOf, atop, overlay, Option.bind_some, Value.field?]
      exact merge_get? hm n

end Settings

end PerlSymbols
