import PerlSymbols.Proofs.Cursor.Runs

/-!
# Arrows in symbols

A `>` is meant to be part of a symbol only as the end of an arrow, so that comparisons and fat
commas end a symbol. The scan to the left looks at the character before a `>`, and where there is
none it goes on. So a symbol may begin with a bare `>`, if the line does and the scan gets there.
Every other `>` of a symbol has its `-`.
-/

namespace PerlSymbols.Cursor

theorem not_mem_rightRun (cs : List Char) : '>' ∉ (rightRun cs).1 := by
  cases cs with
  | nil => simp [rightRun]
  | cons c rest =>
    rw [rightRun]
    split
    · next hc =>
      intro hmem
      rcases List.mem_cons.mp hmem with rfl | hmem
      · exact absurd hc (by decide)
      · exact absurd (List.all_eq_true.mp List.all_takeWhile _ hmem) (by decide)
    · simp

theorem isSigil_of_sigil? {before after : List Char} {s : Char}
    (h : sigil? before after = some s) : isSigil s = true := by
  unfold sigil? at h
  dsimp only at h
  split at h
  · split at h
    · cases h; rfl
    · split at h <;> (cases h; rfl)
  · cases h; rfl
  · cases h; rfl
  · split at h
    · next hblock =>
      cases h
      simp only [Bool.and_eq_true] at hblock
      exact hblock.2
    · cases h
  · cases h

theorem arrowsWhole_sigil? (before after : List Char) :
    ArrowsWhole (sigil? before after).toList := by
  cases h : sigil? before after with
  | none => exact isPath_nil.arrows
  | some s =>
    apply arrowsWhole_of_not_mem
    intro hmem
    have hs : '>' = s := by simpa using hmem
    exact absurd (isSigil_of_sigil? h) (by rw [← hs]; decide)

/-- The scan to the left goes through the whole line and ends with a `>` that begins it. -/
def ReachesBareArrow (line : List Char) (i : Nat) : Prop :=
  ∃ path, line.take i = '>' :: path ∧ IsPath path

theorem leftRun_of_reachesBareArrow {line path : List Char} {i : Nat}
    (hline : line.take i = '>' :: path) (hpath : IsPath path) :
    leftRun (line.take i).reverse = ((line.take i).reverse, []) := by
  have hfirst : leftRun ['>'] = (['>'], []) := leftRun_of_isTaken ⟨by decide, by simp⟩
  rw [hline, List.reverse_cons, hpath.leftRun, hfirst]

/-- The arrows of a symbol are whole, except for a `>` that begins the line and the symbol. -/
theorem symbolInLine_cases (line : List Char) (i : Nat) :
    ¬ ReachesBareArrow line i ∧ ArrowsWhole (symbolInLine line i) ∨
      ReachesBareArrow line i ∧ ∃ rest, symbolInLine line i = '>' :: rest ∧ ArrowsWhole rest := by
  by_cases hempty : line = []
  · subst hempty
    refine Or.inl ⟨?_, by simp [symbolInLine, ArrowsWhole]⟩
    rintro ⟨path, hline, -⟩
    simp at hline
  have hright := arrowsWhole_of_not_mem (not_mem_rightRun (line.drop i))
  rw [symbolInLine_eq hempty]
  obtain hpath | ⟨hall, path, hrun, hpath⟩ := leftRun_cases (line.take i).reverse
  · refine Or.inl ⟨?_, (arrowsWhole_sigil? ..).append (hpath.arrows.append hright)⟩
    rintro ⟨path, hline, hpath'⟩
    rw [leftRun_of_reachesBareArrow hline hpath', List.reverse_reverse, hline] at hpath
    exact hpath.arrows.1 rfl
  · have hline : line.take i = '>' :: path := by
      have hcut := leftRun_append (line.take i).reverse
      rw [hall, List.append_nil] at hcut
      rw [← hrun, hcut, List.reverse_reverse]
    refine Or.inr ⟨⟨path, hline, hpath⟩, path ++ (rightRun (line.drop i)).1, ?_,
      hpath.arrows.append hright⟩
    rw [hall, hrun]
    rfl

/-- **Arrows are whole.** Each `>` of a symbol stands right after a `-`, or is its first character.
It is not the first character unless the line begins with it and everything from there to the cursor
is part of the symbol, and then it is. -/
theorem arrows_whole_iff (position : Position) (text : String) :
    ((symbolAt position text).toList.IsChain fun c d => d = '>' → c = '-') ∧
    (ArrowsWhole (symbolAt position text).toList ↔
      ¬ ∃ line, (Text.lines text.toList)[position.line]? = some line ∧
        ReachesBareArrow line position.character) := by
  cases hline : (Text.lines text.toList)[position.line]? with
  | none => simp [symbolAt, hline, ArrowsWhole]
  | some line =>
    have hsymbol : (symbolAt position text).toList = symbolInLine line position.character := by
      simp [symbolAt, hline]
    simp only [hsymbol, Option.some.injEq, exists_eq_left']
    obtain ⟨hnot, hwhole⟩ | ⟨hreaches, rest, heq, hwhole⟩ :=
      symbolInLine_cases line position.character
    · exact ⟨hwhole.2, iff_of_true hwhole hnot⟩
    · rw [heq]
      refine ⟨hwhole.2.cons ?_, iff_of_false (fun h => h.1 rfl) (not_not_intro hreaches)⟩
      rintro d hd rfl
      exact absurd hd hwhole.1

/-- A line that begins with a bare `>`, as the continuation of a comparison does. -/
theorem bare_arrow_taken :
    symbolAt ⟨0, 1⟩ ">limit" = ">limit" ∧ ¬ ArrowsWhole ">limit".toList := by
  decide +kernel

end PerlSymbols.Cursor
