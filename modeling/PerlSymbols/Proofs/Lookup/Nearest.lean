import PerlSymbols.Lookup

/-!
# The nearest declaration

Of several declarations of one name, the one meant at a line is the latest that is not after it.
`mostRecent` goes through the candidates once and keeps the best so far. It starts with the first
candidate, and this is where it goes wrong: a first candidate after the line is later than
everything that could replace it. So the nearest declaration is found in every order of the
candidates, but only if the first of them is not after the line, or all of them are.
-/

namespace PerlSymbols

/-- The latest of the declarations at or above a line, and the first of them on its line. -/
def IsLatestUpTo (line : Int) (found : List Element) (e : Element) : Prop :=
  ∃ earlier later, found = earlier ++ e :: later ∧ e.line ≤ line ∧
    (∀ x ∈ earlier, x.line ≤ line → x.line < e.line) ∧
    ∀ x ∈ later, x.line ≤ line → x.line ≤ e.line

/-- The declaration meant at a line. Where all come later, it is the first candidate. -/
structure IsNearest (line : Int) (found : List Element) (e : Element) : Prop where
  latest : (∃ x ∈ found, x.line ≤ line) → IsLatestUpTo line found e
  first : (∀ x ∈ found, line < x.line) → found.head? = some e

section Candidates

variable {line : Int} {seen found : List Element} {best e : Element}

theorem IsLatestUpTo.line_le (h : IsLatestUpTo line found e) : e.line ≤ line := by
  obtain ⟨_, _, _, hle, _, _⟩ := h
  exact hle

theorem IsLatestUpTo.mem (h : IsLatestUpTo line found e) : e ∈ found := by
  obtain ⟨_, _, rfl, _⟩ := h
  simp

theorem isLatestUpTo_singleton (h : e.line ≤ line) : IsLatestUpTo line [e] e :=
  ⟨[], [], rfl, h, by simp, by simp⟩

theorem IsLatestUpTo.isNearest (h : IsLatestUpTo line found e) : IsNearest line found e where
  latest _ := h
  first hall := absurd (hall e h.mem) (Int.not_lt.mpr h.line_le)

/-! ## One candidate -/

theorem nearer_of_lt (h : line < best.line) : nearer line best e = best := by
  rw [nearer, if_neg]
  omega

/-- The best candidate so far stays the best, or gives way to the next one. -/
theorem IsLatestUpTo.nearer (h : IsLatestUpTo line seen best) (e : Element) :
    IsLatestUpTo line (seen ++ [e]) (nearer line best e) := by
  obtain ⟨earlier, later, rfl, hline, hearlier, hlater⟩ := h
  unfold PerlSymbols.nearer
  split
  · next hnearer =>
    refine ⟨earlier ++ best :: later, [], rfl, hnearer.2, ?_, by simp⟩
    intro x hx hle
    simp only [List.mem_append, List.mem_cons] at hx
    rcases hx with hx | rfl | hx
    · have := hearlier x hx hle
      omega
    · exact hnearer.1
    · have := hlater x hx hle
      omega
  · next hnearer =>
    refine ⟨earlier, later ++ [e], by simp, hline, hearlier, ?_⟩
    intro x hx hle
    rcases List.mem_append.mp hx with hx | hx
    · exact hlater x hx hle
    · rw [List.mem_singleton.mp hx] at hle ⊢
      omega

/-! ## All candidates -/

theorem IsLatestUpTo.foldl (h : IsLatestUpTo line seen best) (rest : List Element) :
    IsLatestUpTo line (seen ++ rest) (rest.foldl (PerlSymbols.nearer line) best) := by
  induction rest generalizing seen best with
  | nil => simpa using h
  | cons e rest ih => simpa using ih (h.nearer e)

/-- A first candidate after the line is never replaced. -/
theorem mostRecent_of_lt {first : Element} (h : line < first.line) (others : List Element) :
    mostRecent first others line = first := by
  unfold mostRecent
  induction others with
  | nil => rfl
  | cons e others ih => rw [List.foldl_cons, nearer_of_lt h, ih]

theorem mostRecent_of_le {first : Element} (h : first.line ≤ line) (others : List Element) :
    IsLatestUpTo line (first :: others) (mostRecent first others line) :=
  (isLatestUpTo_singleton h).foldl others

end Candidates

/-- **The nearest declaration.** It is found exactly if the first candidate is not after the line or
all candidates are. Otherwise the first candidate is taken, as if none came before the line. -/
theorem mostRecent_isNearest_iff (first : Element) (others : List Element) (line : Int) :
    ∃ e, mostRecent? (first :: others) line = some e ∧
      (IsNearest line (first :: others) e ↔ first.line ≤ line ∨ ∀ x ∈ others, line < x.line) ∧
      (line < first.line → e = first) := by
  refine ⟨mostRecent first others line, rfl, ⟨?_, ?_⟩, fun hlt => mostRecent_of_lt hlt others⟩
  · intro hnearest
    by_cases hfirst : first.line ≤ line
    · exact Or.inl hfirst
    · right
      intro x hx
      refine Int.not_le.mp fun hle => ?_
      have hlatest := hnearest.latest ⟨x, List.mem_cons_of_mem _ hx, hle⟩
      rw [mostRecent_of_lt (by omega)] at hlatest
      exact hfirst hlatest.line_le
  · intro h
    by_cases hfirst : first.line ≤ line
    · exact (mostRecent_of_le hfirst others).isNearest
    · have hlater := h.resolve_left hfirst
      have hall : ∀ x ∈ first :: others, line < x.line :=
        List.forall_mem_cons.mpr ⟨by omega, hlater⟩
      refine ⟨?_, ?_⟩
      · rintro ⟨x, hx, hle⟩
        exact absurd (hall x hx) (by omega)
      · intro _
        rw [mostRecent_of_lt (by omega)]
        rfl

/-- Declarations of one variable, found out of order. -/
def declaredAt (line : Int) : Element :=
  { name := "$x", tag := .known .localVar, line }

/-- At line 12 the declaration of line 11 is meant, and that of line 14 is taken. -/
theorem mostRecent_passes_over :
    mostRecent? [declaredAt 14, declaredAt 11] 12 = some (declaredAt 14) ∧
    IsNearest 12 [declaredAt 14, declaredAt 11] (declaredAt 11) ∧
    ¬ IsNearest 12 [declaredAt 14, declaredAt 11] (declaredAt 14) := by
  have hlatest : IsLatestUpTo 12 [declaredAt 14, declaredAt 11] (declaredAt 11) :=
    ⟨[declaredAt 14], [], rfl, by decide, by simp [declaredAt], by simp⟩
  refine ⟨rfl, hlatest.isNearest, ?_⟩
  intro hnearest
  have hle := (hnearest.latest ⟨declaredAt 11, by simp, by decide⟩).line_le
  exact absurd hle (by decide)

end PerlSymbols
