import PerlSymbols.Proofs.Cursor.Runs

/-!
# The cursor on a sigil

With the cursor on the name of a variable, its sigil is what stands before the symbol. With the
cursor on the sigil itself, the sigil is a part of the symbol instead, and the scan to the left
begins on its other side. Both give the same symbol only for a sigil that stands alone: nothing
before it is taken for the symbol or its sigil, and nothing after the name asks for another one.
-/

namespace PerlSymbols.Cursor

/-- The sigil `s` before a name, with nothing around them that changes what they name. -/
structure StandsAlone (before : List Char) (s : Char) (after : List Char) : Prop where
  /-- The character before it is neither a sigil nor a part of a symbol. -/
  apart : ∀ front c, before = front ++ [c] → isSigil c = false ∧
    (isLeftChar c = true → c = '>' ∧ ∃ d ∈ front.getLast?, d ≠ '-')
  /-- It does not begin the block of another sigil, such as `@{$rows}`. -/
  noBlock : ∀ front outer, before = front ++ [outer, '\x7b'] → isSigil outer = true →
    after.head? ≠ some '\x7d'
  /-- No element is accessed. -/
  noAccess : s = '$' → after.head? ≠ some '[' ∧ after.head? ≠ some '\x7b'

section Line

variable {before word after : List Char} {s : Char}

theorem symbolInLine_sigil (hs : isSigil s = true) (hword : ∀ c ∈ word, Text.isWord c = true)
    (hafter : ∀ c ∈ after.head?, Text.isWord c = false) :
    symbolInLine (before ++ s :: (word ++ after)) before.length =
      (sigil? (leftRun before.reverse).2 after).toList ++
        ((leftRun before.reverse).1.reverse ++ s :: word) := by
  rw [symbolInLine_append (by simp), rightRun_cons (Or.inl hs) hword hafter]

theorem symbolInLine_name (hs : isSigil s = true) (hword : ∀ c ∈ word, Text.isWord c = true)
    (hafter : ∀ c ∈ after.head?, Text.isWord c = false) {i : Nat} (hi : i < word.length) :
    symbolInLine (before ++ s :: (word ++ after)) (before.length + 1 + i) =
      (sigil? (s :: before.reverse) after).toList ++ word := by
  have hstop : leftRun (before ++ [s]).reverse = ([], s :: before.reverse) := by
    rw [List.reverse_append]
    exact leftRun_of_not_left fun c hc => by cases hc; exact isLeftChar_of_isSigil hs
  have hcut : before ++ s :: (word ++ after) = (before ++ [s]) ++ (word ++ after) := by simp
  have hlength : before.length + 1 = (before ++ [s]).length := by simp
  rw [hcut, hlength, symbolInLine_word hword hafter hi, hstop]
  rfl

theorem leftRun_eq_nil_iff : (leftRun before.reverse).1 = [] ↔
    ∀ front c, before = front ++ [c] → ¬ IsTaken c front.reverse := by
  rcases List.eq_nil_or_concat before with rfl | ⟨front, c, rfl⟩
  · simp [leftRun]
  · have hlast : (∀ front' c', front ++ [c] = front' ++ [c'] → ¬ IsTaken c' front'.reverse) ↔
        ¬ IsTaken c front.reverse := by
      constructor
      · exact fun h => h front c rfl
      · intro h front' c' heq
        obtain ⟨rfl, rfl⟩ := List.append_singleton_inj.mp heq
        exact h
    rw [List.concat_eq_append, hlast, List.reverse_append, List.reverse_singleton,
      List.singleton_append]
    obtain ⟨htaken, heq⟩ | ⟨hnot, heq⟩ := leftRun_cons c front.reverse
    · simp [heq, htaken]
    · simp [heq, hnot]

theorem shownSigil_eq_iff (hs : isSigil s = true) :
    shownSigil (some s) after.head? = some s ↔
      (s = '$' → after.head? ≠ some '[' ∧ after.head? ≠ some '\x7b') := by
  rcases isSigil_iff.mp hs with rfl | rfl | rfl
  · by_cases hlist : after.head? = some '['
    · simp [shownSigil, hlist]
    · by_cases hhash : after.head? = some '\x7b' <;> simp [shownSigil, hlist, hhash]
  · simp [shownSigil]
  · simp [shownSigil]

/-- The two symbols are the same if nothing is added to the sigil and the sigil is not changed. -/
theorem symbols_eq_iff (hs : isSigil s = true) :
    (sigil? (leftRun before.reverse).2 after).toList ++
        ((leftRun before.reverse).1.reverse ++ s :: word) =
      (sigil? (s :: before.reverse) after).toList ++ word ↔
    (leftRun before.reverse).1 = [] ∧ sigil? before.reverse after = none ∧
      sigil? (s :: before.reverse) after = some s := by
  have hcut := leftRun_append before.reverse
  obtain ⟨s', hs'⟩ : ∃ s', sigil? (s :: before.reverse) after = some s' := by
    refine Option.ne_none_iff_exists'.mp fun hnone => ?_
    have := (sigil?_eq_none_iff.mp hnone).1 s rfl
    simp [hs] at this
  rw [hs']
  constructor
  · intro heq
    -- The symbol at the name is one character longer than the name.
    have hlength := congrArg List.length heq
    simp only [List.length_append, List.length_reverse, List.length_cons, Option.toList_some,
      List.length_nil] at hlength
    have hrun : (leftRun before.reverse).1 = [] := List.eq_nil_of_length_eq_zero (by omega)
    rw [hrun, List.nil_append] at hcut
    rw [hrun, hcut] at heq
    cases hnone : sigil? before.reverse after with
    | none =>
      rw [hnone] at heq
      have hsame : s = s' := by simpa using heq
      exact ⟨hrun, rfl, by rw [hsame]⟩
    | some t =>
      rw [hnone] at heq
      exact absurd (congrArg List.length heq) (by simp)
  · rintro ⟨hrun, hnone, hsame⟩
    rw [hrun, List.nil_append] at hcut
    rw [hrun, hcut, hnone, hsame]
    rfl

theorem standsAlone_iff (hs : isSigil s = true) :
    StandsAlone before s after ↔
      (leftRun before.reverse).1 = [] ∧ sigil? before.reverse after = none ∧
        sigil? (s :: before.reverse) after = some s := by
  -- Next to another sigil the sigil of an element would not change; here there is none.
  have hshown : (∀ c ∈ before.reverse.head?, isSigil c = false) →
      sigil? (s :: before.reverse) after = shownSigil (some s) after.head? := by
    intro hhead
    rw [sigil?_cons hs, if_neg]
    intro hdollar
    exact absurd (hhead '$' hdollar) (by decide)
  rw [leftRun_eq_nil_iff]
  constructor
  · intro h
    have hhead : ∀ c ∈ before.reverse.head?, isSigil c = false := by
      intro c hc
      obtain ⟨front, hfront⟩ := List.getLast?_eq_some_iff.mp (List.head?_reverse ▸ hc)
      exact (h.apart front c hfront).1
    refine ⟨?_, sigil?_eq_none_iff.mpr ⟨hhead, ?_⟩, ?_⟩
    · rintro front c hfront ⟨hleft, harrow⟩
      obtain ⟨hc, d, hd, hne⟩ := (h.apart front c hfront).2 hleft
      exact hne (harrow hc d (by simpa using hd))
    · rintro ⟨outer, rest, hrev, houter, hend⟩
      have hfront : before = rest.reverse ++ [outer, '\x7b'] := by
        rw [← List.reverse_reverse before, hrev]
        simp
      exact h.noBlock _ outer hfront houter hend
    · rw [hshown hhead, shownSigil_eq_iff hs]
      exact h.noAccess
  · rintro ⟨hrun, hnone, hsame⟩
    obtain ⟨hhead, hblock⟩ := sigil?_eq_none_iff.mp hnone
    rw [hshown hhead, shownSigil_eq_iff hs] at hsame
    refine ⟨?_, ?_, hsame⟩
    · intro front c hfront
      refine ⟨hhead c (by simp [hfront]), fun hleft => ?_⟩
      simpa [IsTaken, hleft] using hrun front c hfront
    · intro front outer hfront houter hend
      exact hblock ⟨outer, front.reverse, by simp [hfront], houter, hend⟩

end Line

/-- **The sigil of a variable.** At each character of the name, the symbol is the one at the sigil
if and only if the sigil stands alone. -/
theorem sigil_as_variable_iff {text : String} {n : Nat} {before word after : List Char} {s : Char}
    (hline : (Text.lines text.toList)[n]? = some (before ++ s :: (word ++ after)))
    (hs : isSigil s = true) (hword : ∀ c ∈ word, Text.isWord c = true)
    (hafter : ∀ c ∈ after.head?, Text.isWord c = false) {i : Nat} (hi : i < word.length) :
    symbolAt ⟨n, before.length⟩ text = symbolAt ⟨n, before.length + 1 + i⟩ text ↔
      StandsAlone before s after := by
  rw [symbolAt_of_line hline, symbolAt_of_line hline, String.ofList_inj,
    symbolInLine_sigil hs hword hafter, symbolInLine_name hs hword hafter hi, symbols_eq_iff hs,
    standsAlone_iff hs]

/-- A sigil after a fat comma stands alone: that `>` is no end of an arrow. -/
theorem sigil_as_variable_iff_comma :
    (Text.lines "(k=>$v)".toList)[0]? = some ("(k=>".toList ++ '$' :: ("v".toList ++ ")".toList)) ∧
    StandsAlone "(k=>".toList '$' ")".toList ∧
    symbolAt ⟨0, 4⟩ "(k=>$v)" = symbolAt ⟨0, 5⟩ "(k=>$v)" := by
  have hline : (Text.lines "(k=>$v)".toList)[0]? =
      some ("(k=>".toList ++ '$' :: ("v".toList ++ ")".toList)) := by
    decide +kernel
  have halone : StandsAlone "(k=>".toList '$' ")".toList :=
    (standsAlone_iff rfl).mpr (by decide)
  have hname : ∀ c ∈ "v".toList, Text.isWord c = true := List.all_eq_true.mp (by decide)
  have hend : ∀ c ∈ ")".toList.head?, Text.isWord c = false := by rintro c ⟨⟩; rfl
  have hinside : 0 < "v".toList.length := by decide
  exact ⟨hline, halone, (sigil_as_variable_iff hline rfl hname hend hinside).mpr halone⟩

/-- With the cursor on the sigil, an element is not named by its container, the sigil of another
variable is doubled, and the variable before a minus becomes part of the symbol. -/
theorem sigil_differs_from_variable :
    symbolAt ⟨0, 0⟩ "$foo[0]" = "$foo" ∧ symbolAt ⟨0, 1⟩ "$foo[0]" = "@foo" ∧
    symbolAt ⟨0, 1⟩ "@$rows" = "@$rows" ∧ symbolAt ⟨0, 2⟩ "@$rows" = "$rows" ∧
    symbolAt ⟨0, 3⟩ "$i-$j" = "$i-$j" ∧ symbolAt ⟨0, 4⟩ "$i-$j" = "$j" := by
  decide +kernel

end PerlSymbols.Cursor
