/-!
# Ordered maps

A map is the list of its entries in the order in which their keys first came. Putting a value
under a key that is there keeps the key's place.
-/

namespace PerlSymbols

/-- The entries of an ordered map. -/
abbrev Entries (κ : Type) (α : Type) := List (κ × α)

namespace Entries

variable {κ α : Type} [DecidableEq κ]

def get? (m : Entries κ α) (k : κ) : Option α :=
  match m with
  | [] => none
  | (k', a) :: rest => if k' = k then some a else get? rest k

def contains (m : Entries κ α) (k : κ) : Bool :=
  (m.get? k).isSome

def put (m : Entries κ α) (k : κ) (a : α) : Entries κ α :=
  match m with
  | [] => [(k, a)]
  | (k', a') :: rest => if k' = k then (k', a) :: rest else (k', a') :: put rest k a

def erase (m : Entries κ α) (k : κ) : Entries κ α :=
  m.filter fun entry => entry.1 ≠ k

/-- The entries put one after the other. -/
def ofList (pairs : List (κ × α)) : Entries κ α :=
  pairs.foldl (fun m entry => m.put entry.1 entry.2) []

def keys (m : Entries κ α) : List κ :=
  m.map Prod.fst

theorem get?_put (m : Entries κ α) (k k' : κ) (a : α) :
    (m.put k a).get? k' = if k = k' then some a else m.get? k' := by
  induction m with
  | nil => simp [put, get?]
  | cons entry rest ih =>
    obtain ⟨j, b⟩ := entry
    by_cases hj : j = k
    · subst hj
      by_cases hk : j = k' <;> simp [put, get?, hk]
    · by_cases hk : j = k'
      · subst hk
        simp [put, get?, hj, Ne.symm hj]
      · simp [put, get?, hj, hk, ih]

theorem get?_erase (m : Entries κ α) (k k' : κ) :
    (m.erase k).get? k' = if k = k' then none else m.get? k' := by
  induction m with
  | nil => simp [erase, get?]
  | cons entry rest ih =>
    obtain ⟨j, b⟩ := entry
    have hrest : (List.filter (fun e : κ × α => e.1 ≠ k) rest) = erase rest k := rfl
    by_cases hj : j = k
    · subst hj
      rw [erase, List.filter_cons_of_neg (by simp), hrest, ih]
      by_cases hk : j = k' <;> simp [get?, hk]
    · rw [erase, List.filter_cons_of_pos (by simpa using hj), hrest]
      by_cases hk : j = k'
      · subst hk
        simp [get?, Ne.symm hj]
      · simp [get?, hk, ih]

theorem mem_of_get? {m : Entries κ α} {k : κ} {a : α} (h : m.get? k = some a) : (k, a) ∈ m := by
  induction m with
  | nil => simp [get?] at h
  | cons entry rest ih =>
    obtain ⟨j, b⟩ := entry
    simp only [get?] at h
    split at h
    · next hj => simp_all
    · exact List.mem_cons_of_mem _ (ih h)

end Entries

end PerlSymbols
