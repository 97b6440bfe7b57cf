import Mathlib.Data.List.Infix
import PerlSymbols.Text.Search

/-!
# What a search finds

Searching is about the texts of which a text is put together: what stands in front of a text, inside
it, and at its end.
-/

namespace PerlSymbols.Text

theorem after?_eq_some_iff {pattern cs rest : List Char} :
    after? pattern cs = some rest ↔ cs = pattern ++ rest := by
  induction pattern generalizing cs with
  | nil => simp [after?]
  | cons p pattern ih =>
    cases cs with
    | nil => simp [after?]
    | cons c cs =>
      by_cases h : p = c
      · simp [after?, h, ih]
      · simp [after?, h, Ne.symm h]

theorem after?_eq_none_iff {pattern cs : List Char} :
    after? pattern cs = none ↔ ¬ pattern <+: cs := by
  rw [Option.eq_none_iff_forall_ne_some]
  constructor
  · rintro h ⟨rest, hrest⟩
    exact h rest (after?_eq_some_iff.mpr hrest.symm)
  · intro h rest hrest
    exact h ⟨rest, (after?_eq_some_iff.mp hrest).symm⟩

theorem occursIn_iff {pattern cs : List Char} : occursIn pattern cs = true ↔ pattern <:+: cs := by
  unfold occursIn
  induction cs with
  | nil => cases pattern <;> simp [splitFirst?]
  | cons c cs ih =>
    rw [splitFirst?, List.infix_cons_iff]
    cases hafter : after? pattern (c :: cs) with
    | some rest =>
      rw [after?_eq_some_iff] at hafter
      simp [hafter]
    | none =>
      rw [after?_eq_none_iff] at hafter
      simp [hafter, ih]

/-! ## The first occurrence -/

theorem splitFirst?_char {c : Char} {before : List Char} (h : c ∉ before) (rest : List Char) :
    splitFirst? [c] (before ++ c :: rest) = some (before, rest) := by
  induction before with
  | nil =>
    have hafter : after? [c] (c :: rest) = some rest := after?_eq_some_iff.mpr rfl
    rw [List.nil_append, splitFirst?, hafter]
  | cons b before ih =>
    obtain ⟨hb, hbefore⟩ := List.ne_and_not_mem_of_not_mem_cons h
    have hafter : after? [c] (b :: (before ++ c :: rest)) = none := by simp [after?, hb]
    rw [List.cons_append, splitFirst?, hafter, ih hbefore]
    rfl

theorem splitFirst?_char_eq_none {c : Char} {cs : List Char} :
    splitFirst? [c] cs = none ↔ c ∉ cs := by
  rw [← List.singleton_infix_iff, ← occursIn_iff, occursIn]
  simp

/-! ## The last part -/

theorem lastPart_cases (pattern cs : List Char) :
    ¬ pattern <:+: cs ∧ lastPart pattern cs = cs ∨
      ∃ front, cs = front ++ pattern ++ lastPart pattern cs := by
  induction cs with
  | nil =>
    cases pattern with
    | nil => exact Or.inr ⟨[], rfl⟩
    | cons p pattern => exact Or.inl ⟨by simp, rfl⟩
  | cons c cs ih =>
    rw [lastPart]
    split
    · next hlater =>
      obtain ⟨hnot, -⟩ | ⟨front, hfront⟩ := ih
      · exact absurd (occursIn_iff.mp hlater) hnot
      · exact Or.inr ⟨c :: front, by rw [List.cons_append, List.cons_append, ← hfront]⟩
    · next hlater =>
      split
      · next rest hrest => exact Or.inr ⟨[], after?_eq_some_iff.mp hrest⟩
      · next hnone =>
        rw [after?_eq_none_iff] at hnone
        rw [occursIn_iff] at hlater
        exact Or.inl ⟨by rw [List.infix_cons_iff, not_or]; exact ⟨hnone, hlater⟩, rfl⟩

/-- The last part is what follows a pattern that does not begin again further on. -/
theorem lastPart_append {pattern part : List Char} (hne : pattern ≠ [])
    (hlast : ¬ pattern <:+: (pattern ++ part).tail) (front : List Char) :
    lastPart pattern (front ++ (pattern ++ part)) = part := by
  induction front with
  | nil =>
    obtain ⟨p, pattern', rfl⟩ := List.exists_cons_of_ne_nil hne
    have hafter : after? (p :: pattern') (p :: (pattern' ++ part)) = some part :=
      after?_eq_some_iff.mpr rfl
    have hnot : ¬ occursIn (p :: pattern') (pattern' ++ part) = true := by
      rw [occursIn_iff]
      exact hlast
    rw [List.nil_append, List.cons_append, lastPart, if_neg hnot, hafter]
  | cons c front ih =>
    have hlater : occursIn pattern (front ++ (pattern ++ part)) = true :=
      occursIn_iff.mpr ⟨front, part, by simp⟩
    rw [List.cons_append, lastPart, if_pos hlater, ih]

/-! ## Pieces -/

theorem pieces_eq_splitOn (separator : Char) (cs : List Char) :
    pieces separator cs = cs.splitOn separator := by
  rw [List.splitOn_eq_splitOnP]
  induction cs with
  | nil => rfl
  | cons c cs ih =>
    rw [pieces, List.splitOnP_cons_eq_if_modifyHead, ← ih]
    by_cases hc : c = separator
    · simp [hc]
    · simp only [hc, if_false, beq_iff_eq]
      cases hcs : pieces separator cs with
      | nil => exact absurd (ih.symm.trans hcs) (List.splitOnP_ne_nil _ _)
      | cons first others => rfl

theorem not_mem_of_mem_pieces {separator : Char} {cs piece : List Char}
    (h : piece ∈ pieces separator cs) : separator ∉ piece := by
  induction cs generalizing piece with
  | nil =>
    rw [pieces, List.mem_singleton] at h
    simp [h]
  | cons c cs ih =>
    rw [pieces] at h
    split at h
    · rcases List.mem_cons.mp h with rfl | h
      · simp
      · exact ih h
    · next hc =>
      split at h
      · next first others hcs =>
        rw [hcs] at ih
        rcases List.mem_cons.mp h with rfl | h
        · simpa [Ne.symm hc] using ih List.mem_cons_self
        · exact ih (List.mem_cons_of_mem _ h)
      · rw [List.mem_singleton] at h
        simp [h, Ne.symm hc]

/-- Names that are joined by a separator come apart again. -/
theorem pieces_intercalate {separator : Char} {names : List (List Char)}
    (h : ∀ name ∈ names, separator ∉ name) (hne : names ≠ []) :
    pieces separator ([separator].intercalate names) = names := by
  rw [pieces_eq_splitOn, List.splitOn_intercalate separator h hne]

/-! ## Replacing -/

/-- The text `result` is `text` with `new` in the place of `old`: both have the same parts between
them, and no `old` is left in a part. -/
def Replaces (old new text result : List Char) : Prop :=
  ∃ parts, parts ≠ [] ∧ (∀ part ∈ parts, ¬ old <:+: part) ∧
    text = old.intercalate parts ∧ result = new.intercalate parts

theorem intercalate_cons_head (sep part : List Char) (c : Char) (parts : List (List Char)) :
    sep.intercalate ((c :: part) :: parts) = c :: sep.intercalate (part :: parts) := by
  cases parts <;> simp [List.intercalate]

theorem replaces_replacePairs (a b c d : Char) (text : List Char) :
    Replaces [a, b] [c, d] text (replacePairs a b c d text) := by
  fun_induction replacePairs a b c d text with
  | case1 x y rest hpair ih =>
    obtain ⟨parts, hne, hparts, htext, hresult⟩ := ih
    obtain ⟨part, parts, rfl⟩ := List.exists_cons_of_ne_nil hne
    refine ⟨[] :: part :: parts, by simp, ?_, ?_, ?_⟩
    · exact List.forall_mem_cons.mpr ⟨by simp, hparts⟩
    · rw [htext, hpair.1, hpair.2]
      simp [List.intercalate]
    · rw [hresult]
      simp [List.intercalate]
  | case2 x y rest hpair ih =>
    obtain ⟨parts, hne, hparts, htext, hresult⟩ := ih
    obtain ⟨part, parts, rfl⟩ := List.exists_cons_of_ne_nil hne
    obtain ⟨hpart, hparts⟩ := List.forall_mem_cons.mp hparts
    refine ⟨(x :: part) :: parts, by simp, List.forall_mem_cons.mpr ⟨?_, hparts⟩, ?_, ?_⟩
    · rw [List.infix_cons_iff, not_or]
      refine ⟨?_, hpart⟩
      rw [List.cons_prefix_cons]
      rintro ⟨rfl, back, rfl⟩
      -- The part begins with the second character, so the text does.
      have hy : y = b := by
        rw [List.singleton_append, intercalate_cons_head] at htext
        exact (List.cons.inj htext).1
      exact hpair ⟨rfl, hy⟩
    · rw [htext, intercalate_cons_head]
    · rw [hresult, intercalate_cons_head]
  | case3 text hshort =>
    refine ⟨[text], by simp, ?_, by simp, by simp⟩
    intro part hpart hinfix
    rw [List.mem_singleton.mp hpart] at hinfix
    match text with
    | [] => simp at hinfix
    | [x] => simpa using hinfix.length_le
    | x :: y :: rest => exact hshort x y rest rfl

theorem replacePairs_append {a b c d : Char} {ys : List Char} (hy : ys.head? ≠ some b)
    (xs : List Char) :
    replacePairs a b c d (xs ++ ys) = replacePairs a b c d xs ++ replacePairs a b c d ys := by
  fun_induction replacePairs a b c d xs with
  | case1 x y rest hpair ih =>
    rw [List.cons_append, List.cons_append, replacePairs, if_pos hpair, ih]
    rfl
  | case2 x y rest hpair ih =>
    rw [List.cons_append, List.cons_append, replacePairs, if_neg hpair, ← List.cons_append, ih]
    rfl
  | case3 xs hshort =>
    match xs, ys with
    | [], ys => rfl
    | [x], [] => rfl
    | [x], y :: rest =>
      have hpair : ¬ (x = a ∧ y = b) := fun h => hy (by rw [h.2]; rfl)
      rw [List.singleton_append, replacePairs, if_neg hpair]
      rfl
    | x :: y :: rest, ys => exact absurd rfl (hshort x y rest)

theorem replacePairs_of_not_mem {a b c d : Char} {cs : List Char} (h : a ∉ cs) :
    replacePairs a b c d cs = cs := by
  fun_induction replacePairs a b c d cs with
  | case1 x y rest hpair ih => simp [hpair.1] at h
  | case2 x y rest hpair ih => rw [ih (by simp_all)]
  | case3 => rfl

end PerlSymbols.Text
