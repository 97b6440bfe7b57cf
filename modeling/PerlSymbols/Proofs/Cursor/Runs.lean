import Mathlib.Data.List.Chain
import PerlSymbols.Cursor

/-!
# The two scans from the cursor

The scan to the left goes through every path: word characters, colons, hyphens, and those `>` that
end an arrow. It takes nothing else but a `>` that begins the line. The scan to the right takes a
sigil or a word character at the cursor, and the word after it. The symbol is what both of them
took, with a sigil in front.
-/

namespace PerlSymbols.Cursor

/-- Each `>` stands right after a `-`; in particular, none is the first character. -/
def ArrowsWhole (cs : List Char) : Prop :=
  cs.head? ≠ some '>' ∧ cs.IsChain fun c d => d = '>' → c = '-'

instance (cs : List Char) : Decidable (ArrowsWhole cs) :=
  inferInstanceAs (Decidable (_ ∧ _))

/-- What the scan to the left goes through, whatever stands before it. -/
structure IsPath (cs : List Char) : Prop where
  chars : ∀ c ∈ cs, isLeftChar c = true
  arrows : ArrowsWhole cs

/-! ## Characters -/

theorem isLeftChar_of_isWord {c : Char} (h : Text.isWord c = true) : isLeftChar c = true := by
  simp [isLeftChar, h]

theorem isSigil_iff {c : Char} : isSigil c = true ↔ c = '$' ∨ c = '@' ∨ c = '%' := by
  simp [isSigil, or_assoc]

theorem isLeftChar_of_isSigil {c : Char} (h : isSigil c = true) : isLeftChar c = false := by
  rcases isSigil_iff.mp h with rfl | rfl | rfl <;> decide

/-! ## Paths -/

theorem arrowsWhole_concat {cs : List Char} {c : Char} :
    ArrowsWhole (cs ++ [c]) ↔ ArrowsWhole cs ∧ (c = '>' → cs.getLast? = some '-') := by
  rcases List.eq_nil_or_concat cs with rfl | ⟨init, d, rfl⟩
  · simp [ArrowsWhole]
  · have hhead : (init ++ [d] ++ [c]).head? = (init ++ [d]).head? :=
      List.head?_append_of_ne_nil _ (by simp)
    rw [ArrowsWhole, ArrowsWhole, List.concat_eq_append, hhead, List.isChain_append, and_assoc]
    simp

theorem isPath_nil : IsPath [] where
  chars := by simp
  arrows := by simp [ArrowsWhole]

theorem isPath_concat {cs : List Char} {c : Char} :
    IsPath (cs ++ [c]) ↔
      IsPath cs ∧ isLeftChar c = true ∧ (c = '>' → cs.getLast? = some '-') := by
  constructor
  · rintro ⟨hchars, harrows⟩
    obtain ⟨hwhole, hlast⟩ := arrowsWhole_concat.mp harrows
    exact ⟨⟨fun d hd => hchars d (by simp [hd]), hwhole⟩, hchars c (by simp), hlast⟩
  · rintro ⟨⟨hchars, harrows⟩, hc, hlast⟩
    refine ⟨?_, arrowsWhole_concat.mpr ⟨harrows, hlast⟩⟩
    intro d hd
    rcases List.mem_append.mp hd with hd | hd
    · exact hchars d hd
    · rwa [List.mem_singleton.mp hd]

theorem ArrowsWhole.append {cs ds : List Char} (h : ArrowsWhole cs) (h' : ArrowsWhole ds) :
    ArrowsWhole (cs ++ ds) := by
  refine ⟨?_, h.2.append h'.2 ?_⟩
  · cases cs with
    | nil => exact h'.1
    | cons c cs => exact h.1
  · rintro c - d hd rfl
    exact absurd hd h'.1

theorem IsPath.append {cs ds : List Char} (h : IsPath cs) (h' : IsPath ds) : IsPath (cs ++ ds) where
  chars c hc := (List.mem_append.mp hc).elim (h.chars c) (h'.chars c)
  arrows := h.arrows.append h'.arrows

theorem arrowsWhole_of_not_mem {cs : List Char} (h : '>' ∉ cs) : ArrowsWhole cs := by
  induction cs using List.reverseRecOn with
  | nil => exact isPath_nil.arrows
  | append_singleton cs c ih =>
    simp only [List.mem_append, List.mem_singleton, not_or] at h
    exact arrowsWhole_concat.mpr ⟨ih h.1, fun harrow => absurd harrow.symm h.2⟩

theorem isPath_word {word : List Char} (h : ∀ c ∈ word, Text.isWord c = true) : IsPath word where
  chars c hc := isLeftChar_of_isWord (h c hc)
  arrows := arrowsWhole_of_not_mem fun harrow => absurd (h _ harrow) (by decide)

/-! ## The scan to the left -/

/-- The scan to the left takes a character, given what stands before it. -/
def IsTaken (c : Char) (rest : List Char) : Prop :=
  isLeftChar c = true ∧ (c = '>' → ∀ d ∈ rest.head?, d = '-')

theorem leftRun_cons (c : Char) (rest : List Char) :
    IsTaken c rest ∧ leftRun (c :: rest) = (c :: (leftRun rest).1, (leftRun rest).2) ∨
      ¬ IsTaken c rest ∧ leftRun (c :: rest) = ([], c :: rest) := by
  have hhead : rest.head?.all (· == '-') = true ↔ ∀ d ∈ rest.head?, d = '-' := by
    simp [Option.all_eq_true]
  rw [leftRun]
  split
  · next hstop =>
    refine Or.inr ⟨?_, rfl⟩
    rintro ⟨hleft, harrow⟩
    rw [hleft] at hstop
    simp only [Bool.not_true, Bool.false_or, Bool.and_eq_true, beq_iff_eq] at hstop
    rw [hhead.mpr (harrow hstop.1)] at hstop
    cases hstop.2
  · next hgo =>
    simp only [Bool.or_eq_true, Bool.not_eq_true', Bool.and_eq_true, beq_iff_eq, not_or, not_and,
      Bool.not_eq_false] at hgo
    exact Or.inl ⟨⟨hgo.1, fun harrow => hhead.mp (hgo.2 harrow)⟩, rfl⟩

theorem leftRun_of_isTaken {c : Char} {rest : List Char} (h : IsTaken c rest) :
    leftRun (c :: rest) = (c :: (leftRun rest).1, (leftRun rest).2) := by
  obtain ⟨_, heq⟩ | ⟨hnot, _⟩ := leftRun_cons c rest
  · exact heq
  · exact absurd h hnot

theorem leftRun_of_not_isTaken {c : Char} {rest : List Char} (h : ¬ IsTaken c rest) :
    leftRun (c :: rest) = ([], c :: rest) := by
  obtain ⟨htaken, _⟩ | ⟨_, heq⟩ := leftRun_cons c rest
  · exact absurd htaken h
  · exact heq

theorem leftRun_of_not_left {cs : List Char} (h : ∀ c ∈ cs.head?, isLeftChar c = false) :
    leftRun cs = ([], cs) := by
  cases cs with
  | nil => rfl
  | cons c rest =>
    refine leftRun_of_not_isTaken fun htaken => ?_
    rw [IsTaken, h c rfl] at htaken
    cases htaken.1

theorem leftRun_append (cs : List Char) : (leftRun cs).1 ++ (leftRun cs).2 = cs := by
  induction cs with
  | nil => rfl
  | cons c rest ih =>
    obtain ⟨_, heq⟩ | ⟨_, heq⟩ := leftRun_cons c rest
    · rw [heq, List.cons_append, ih]
    · rw [heq, List.nil_append]

theorem IsPath.leftRun {path : List Char} (h : IsPath path) (before : List Char) :
    leftRun (path.reverse ++ before) =
      (path.reverse ++ (leftRun before).1, (leftRun before).2) := by
  -- The scan meets the last character first.
  induction path using List.reverseRecOn with
  | nil => rfl
  | append_singleton path c ih =>
    obtain ⟨hpath, hc, hlast⟩ := isPath_concat.mp h
    have htaken : IsTaken c (path.reverse ++ before) := by
      refine ⟨hc, ?_⟩
      intro harrow d hd
      rw [List.head?_append, List.head?_reverse, hlast harrow] at hd
      simpa using hd.symm
    rw [List.reverse_append, List.reverse_singleton, List.singleton_append, List.cons_append,
      leftRun_of_isTaken htaken, ih hpath]
    rfl

/-- A `>` that is taken has its `-` in what is taken before it, if anything stands there. -/
theorem getLast?_leftRun {c d : Char} {rest : List Char} (h : IsTaken c (d :: rest))
    (harrow : c = '>') : (leftRun (d :: rest)).1.reverse.getLast? = some '-' := by
  have hd : d = '-' := h.2 harrow d rfl
  subst hd
  have htaken : IsTaken '-' rest := ⟨by decide, by simp⟩
  rw [leftRun_of_isTaken htaken]
  simp

/-- What the scan to the left takes is a path, or a path after a `>` that begins the line. -/
theorem leftRun_cases (cs : List Char) :
    IsPath (leftRun cs).1.reverse ∨
      (leftRun cs).2 = [] ∧ ∃ path, (leftRun cs).1.reverse = '>' :: path ∧ IsPath path := by
  induction cs with
  | nil => exact Or.inl isPath_nil
  | cons c rest ih =>
    obtain ⟨htaken, heq⟩ | ⟨_, heq⟩ := leftRun_cons c rest
    · rw [heq, List.reverse_cons]
      cases rest with
      | nil =>
        -- Only here may a `>` come without its arrow.
        by_cases hc : c = '>'
        · exact Or.inr ⟨rfl, [], by simp [hc, leftRun], isPath_nil⟩
        · exact Or.inl (isPath_concat.mpr ⟨isPath_nil, htaken.1, fun h => absurd h hc⟩)
      | cons d rest =>
        have hbefore := getLast?_leftRun htaken
        obtain hpath | ⟨hall, path, hrun, hpath⟩ := ih
        · exact Or.inl (isPath_concat.mpr ⟨hpath, htaken.1, hbefore⟩)
        · refine Or.inr ⟨hall, path ++ [c], by rw [hrun, List.cons_append], ?_⟩
          refine isPath_concat.mpr ⟨hpath, htaken.1, ?_⟩
          intro hc
          have hlast := hbefore hc
          rw [hrun] at hlast
          cases path with
          | nil => simp at hlast
          | cons e path => simpa using hlast
    · rw [heq]
      exact Or.inl isPath_nil

/-! ## The scan to the right -/

theorem rightRun_cons {c : Char} {word after : List Char}
    (hc : isSigil c = true ∨ Text.isWord c = true) (hword : ∀ d ∈ word, Text.isWord d = true)
    (hafter : ∀ d ∈ after.head?, Text.isWord d = false) :
    rightRun (c :: (word ++ after)) = (c :: word, after) := by
  have htake : after.takeWhile Text.isWord = [] ∧ after.dropWhile Text.isWord = after := by
    cases after with
    | nil => exact ⟨rfl, rfl⟩
    | cons d after => simp [hafter d rfl]
  rw [rightRun, if_pos (by simpa using hc), List.takeWhile_append_of_pos hword,
    List.dropWhile_append_of_pos hword, htake.1, htake.2, List.append_nil]

/-! ## The sigil -/

/-- The sigil that a symbol is named with, given the character after it: an element is reached
through the sigil of a scalar, and named by that of its container. -/
def shownSigil (sigil next : Option Char) : Option Char :=
  if sigil = some '$' ∧ next = some '[' then some '@'
  else if sigil = some '$' ∧ next = some '\x7b' then some '%'
  else sigil

theorem sigil?_cons {s : Char} {outer after : List Char} (hs : isSigil s = true) :
    sigil? (s :: outer) after =
      if outer.head? = some '$' then some s else shownSigil (some s) after.head? := by
  rcases isSigil_iff.mp hs with rfl | rfl | rfl
  · by_cases houter : outer.head? = some '$'
    · simp [sigil?, houter]
    · simp [sigil?, shownSigil, houter]
  · simp [sigil?, shownSigil]
  · simp [sigil?, shownSigil]

/-- A symbol has a sigil right before it, or before a block around it. -/
theorem sigil?_eq_none_iff {before after : List Char} :
    sigil? before after = none ↔
      (∀ c ∈ before.head?, isSigil c = false) ∧
      ¬ ∃ outer rest, before = '\x7b' :: outer :: rest ∧ isSigil outer = true ∧
        after.head? = some '\x7d' := by
  cases before with
  | nil => simp [sigil?]
  | cons c before =>
    by_cases hsigil : isSigil c = true
    · rw [sigil?_cons hsigil]
      refine iff_of_false ?_ fun h => by simp [hsigil] at h
      split
      · simp
      · unfold shownSigil
        split
        · simp
        · split <;> simp
    · have hne : c ≠ '$' ∧ c ≠ '@' ∧ c ≠ '%' := by simpa [isSigil_iff] using hsigil
      by_cases hblock : c = '\x7b'
      · subst hblock
        cases before with
        | nil => simp [sigil?, hsigil]
        | cons outer rest =>
          cases houter : isSigil outer <;> simp [sigil?, hsigil, houter]
      · simp [sigil?, hne, hblock, hsigil]

/-! ## The symbol -/

theorem symbolInLine_eq {line : List Char} (h : line ≠ []) (i : Nat) :
    symbolInLine line i =
      (sigil? (leftRun (line.take i).reverse).2 (rightRun (line.drop i)).2).toList ++
        ((leftRun (line.take i).reverse).1.reverse ++ (rightRun (line.drop i)).1) := by
  have hne : line.isEmpty = false := by simpa using h
  simp only [symbolInLine, hne, Bool.false_eq_true, if_false]
  cases sigil? (leftRun (line.take i).reverse).2 (rightRun (line.drop i)).2 <;> rfl

theorem symbolInLine_append {front back : List Char} (h : front ++ back ≠ []) :
    symbolInLine (front ++ back) front.length =
      (sigil? (leftRun front.reverse).2 (rightRun back).2).toList ++
        ((leftRun front.reverse).1.reverse ++ (rightRun back).1) := by
  rw [symbolInLine_eq h, List.take_left, List.drop_left]

/-- The symbol is the same for every character of a word. -/
theorem symbolInLine_word {front word after : List Char} (hword : ∀ c ∈ word, Text.isWord c = true)
    (hafter : ∀ c ∈ after.head?, Text.isWord c = false) {i : Nat} (hi : i < word.length) :
    symbolInLine (front ++ (word ++ after)) (front.length + i) =
      (sigil? (leftRun front.reverse).2 after).toList ++
        ((leftRun front.reverse).1.reverse ++ word) := by
  -- The cursor cuts the word in two.
  have hne : word.drop i ≠ [] := by simpa using hi
  obtain ⟨c, back, hback⟩ := List.exists_cons_of_ne_nil hne
  have hcut : word = word.take i ++ c :: back := by rw [← hback, List.take_append_drop]
  have hfront : (front ++ word.take i).length = front.length + i := by
    rw [List.length_append, List.length_take_of_le hi.le]
  have hpath : IsPath (word.take i) := isPath_word fun d hd => hword d (List.mem_of_mem_take hd)
  have hright : rightRun (c :: (back ++ after)) = (c :: back, after) :=
    rightRun_cons (Or.inr (hword c (by rw [hcut]; simp)))
      (fun d hd => hword d (by rw [hcut]; simp [hd])) hafter
  have hline : front ++ (word ++ after) = (front ++ word.take i) ++ (c :: (back ++ after)) := by
    nth_rewrite 1 [hcut]
    simp
  rw [hline, ← hfront, symbolInLine_append (by simp), List.reverse_append, hpath.leftRun, hright]
  simp [← hcut]

theorem symbolAt_of_line {text : String} {n : Nat} {line : List Char}
    (h : (Text.lines text.toList)[n]? = some line) (character : Nat) :
    symbolAt ⟨n, character⟩ text = String.ofList (symbolInLine line character) := by
  simp [symbolAt, h]

end PerlSymbols.Cursor
