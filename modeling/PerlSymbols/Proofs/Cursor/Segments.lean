import Mathlib.Order.Bounds.Basic
import PerlSymbols.Proofs.Cursor.Runs

/-!
# The segment under the cursor

A symbol is a segment of its line with a sigil in front. The two scans find its bounds, and each
bound is told by the characters of the line alone: the segment begins as far to the left of the
cursor as it can, and ends with the word at the cursor. So the bounds, and with them the symbol, are
the same for every character of a word.
-/

namespace PerlSymbols.Cursor

section Bounds

variable (row : List Char)

/-- The character at an index may stand in a symbol left of the cursor. -/
def IsLeftAt (j : Nat) : Prop :=
  ∃ c, row[j]? = some c ∧ isLeftChar c = true ∧ (1 ≤ j → c = '>' → row[j - 1]? = some '-')

def IsWordAt (j : Nat) : Prop :=
  ∃ c, row[j]? = some c ∧ Text.isWord c = true

def IsSigilAt (j : Nat) : Prop :=
  ∃ c, row[j]? = some c ∧ isSigil c = true

instance (j : Nat) : Decidable (IsWordAt row j) :=
  decidable_of_iff (row[j]?.any Text.isWord = true) (by simp [IsWordAt, Option.any_eq_true])

instance (j : Nat) : Decidable (IsSigilAt row j) :=
  decidable_of_iff (row[j]?.any isSigil = true) (by simp [IsSigilAt, Option.any_eq_true])

/-- The segment of a cursor at `i` begins at `l`. -/
def BeginsAt (i l : Nat) : Prop :=
  IsLeast {l | ∀ j, l ≤ j → j < i → IsLeftAt row j} l

/-- Where the word begins that ends the segment of a cursor at `i`. A sigil or a word character at
the cursor is part of the segment in any case. -/
def wordFrom (i : Nat) : Nat :=
  if IsSigilAt row i ∨ IsWordAt row i then i + 1 else i

/-- The segment of a cursor at `i` ends before `r`. -/
def EndsAt (i r : Nat) : Prop :=
  IsGreatest {r | wordFrom row i ≤ r ∧ ∀ j, wordFrom row i ≤ j → j < r → IsWordAt row j} r

/-- The character `k` places before an index. -/
def charBefore (l k : Nat) : Option Char :=
  if k ≤ l then row[l - k]? else none

/-- The sigil that the segment from `l` to `r` is named with, from the characters around it. -/
def sigilAround (l r : Nat) : Option Char :=
  if charBefore row l 1 = some '$' then
    if row[r]? = some '[' ∧ charBefore row l 2 ≠ some '$' then some '@'
    else if row[r]? = some '\x7b' ∧ charBefore row l 2 ≠ some '$' then some '%'
    else some '$'
  else if charBefore row l 1 = some '@' ∨ charBefore row l 1 = some '%' then charBefore row l 1
  else if charBefore row l 1 = some '\x7b' ∧ row[r]? = some '\x7d' ∧
      (charBefore row l 2).any isSigil = true then
    charBefore row l 2
  else none

end Bounds

variable {row : List Char} {i l r : Nat}

/-! ## The scan to the left -/

theorem head?_reverse_take (hi : i ≤ row.length) :
    (row.take i).reverse.head? = charBefore row i 1 := by
  rw [List.head?_reverse, List.getLast?_eq_getElem?, List.length_take_of_le hi, charBefore]
  cases i with
  | zero => simp
  | succ i => simp

theorem isTaken_iff (hi : i < row.length) :
    IsTaken row[i] (row.take i).reverse ↔ IsLeftAt row i := by
  have hat : row[i]? = some row[i] := List.getElem?_eq_getElem hi
  rw [IsTaken, head?_reverse_take hi.le, IsLeftAt, hat]
  simp only [Option.mem_def, Option.some.injEq, exists_eq_left', charBefore]
  cases i with
  | zero => simp
  | succ i =>
    have hbefore : row[i]? = some row[i] := List.getElem?_eq_getElem (by omega)
    simp [hbefore]

theorem beginsAt_zero : BeginsAt row 0 0 :=
  ⟨fun _ _ hj => absurd hj (Nat.not_lt_zero _), fun _ _ => Nat.zero_le _⟩

theorem BeginsAt.le (h : BeginsAt row i l) : l ≤ i :=
  h.2 fun _ hij hji => absurd hji (Nat.not_lt.mpr hij)

theorem BeginsAt.succ (h : BeginsAt row i l) (hleft : IsLeftAt row i) :
    BeginsAt row (i + 1) l := by
  constructor
  · intro j hlj hj
    by_cases hji : j < i
    · exact h.1 j hlj hji
    · obtain rfl : j = i := by omega
      exact hleft
  · intro l' hl'
    exact h.2 fun j hlj hji => hl' j hlj (by omega)

theorem beginsAt_succ_self (hnot : ¬ IsLeftAt row i) : BeginsAt row (i + 1) (i + 1) := by
  constructor
  · intro j hij hji
    omega
  · intro l hl
    refine Nat.not_lt.mp fun hlt => ?_
    exact hnot (hl i (by omega) (by omega))

/-- The scan to the left ends where the segment begins. -/
theorem leftRun_take (hi : i ≤ row.length) :
    ∃ l, BeginsAt row i l ∧
      leftRun (row.take i).reverse = ((row.extract l i).reverse, (row.take l).reverse) := by
  -- One character more before the cursor is either taken, and the scan goes on, or ends it.
  induction i with
  | zero => exact ⟨0, beginsAt_zero, by simp [leftRun]⟩
  | succ i ih =>
    obtain ⟨l, hbegins, hrun⟩ := ih (by omega)
    have htake : (row.take (i + 1)).reverse = row[i] :: (row.take i).reverse := by
      rw [List.take_add_one, List.getElem?_eq_getElem hi]
      simp
    rw [htake]
    by_cases hleft : IsLeftAt row i
    · refine ⟨l, hbegins.succ hleft, ?_⟩
      have hle := hbegins.le
      have hextract : row.extract l (i + 1) = row.extract l i ++ [row[i]] := by
        have hlength : i + 1 - l = i - l + 1 := by omega
        have hindex : l + (i - l) = i := by omega
        rw [List.extract_eq_take_drop, List.extract_eq_take_drop, hlength, List.take_add_one,
          List.getElem?_drop, hindex, List.getElem?_eq_getElem hi]
        simp
      rw [leftRun_of_isTaken ((isTaken_iff hi).mpr hleft), hrun, hextract]
      simp
    · refine ⟨i + 1, beginsAt_succ_self hleft, ?_⟩
      rw [leftRun_of_not_isTaken (mt (isTaken_iff hi).mp hleft), htake]
      simp

/-! ## The scan to the right -/

theorem endsAt_iff : EndsAt row i r ↔
    wordFrom row i ≤ r ∧ (∀ j, wordFrom row i ≤ j → j < r → IsWordAt row j) ∧
      ¬ IsWordAt row r := by
  constructor
  · rintro ⟨⟨hle, hword⟩, hgreatest⟩
    refine ⟨hle, hword, fun hnext => ?_⟩
    have hlonger : r + 1 ≤ r := by
      refine hgreatest ⟨by omega, ?_⟩
      intro j hfrom hj
      by_cases hjr : j < r
      · exact hword j hfrom hjr
      · obtain rfl : j = r := by omega
        exact hnext
    omega
  · rintro ⟨hle, hword, hnext⟩
    refine ⟨⟨hle, hword⟩, ?_⟩
    rintro r' ⟨_, hword'⟩
    exact Nat.not_lt.mp fun hlt => hnext (hword' r hle hlt)

/-- A word that begins at `s` ends where its characters end. -/
theorem takeWhile_drop (row : List Char) (s : Nat) :
    ∃ r, s ≤ r ∧ (∀ j, s ≤ j → j < r → IsWordAt row j) ∧ ¬ IsWordAt row r ∧
      (row.drop s).takeWhile Text.isWord = row.extract s r ∧
      (row.drop s).dropWhile Text.isWord = row.drop r := by
  have hcut : (row.drop s).takeWhile Text.isWord ++ (row.drop s).dropWhile Text.isWord =
      row.drop s := List.takeWhile_append_dropWhile
  have hinside : ((row.drop s).takeWhile Text.isWord).all Text.isWord = true :=
    List.all_takeWhile
  have hnext := List.head?_dropWhile_not Text.isWord (row.drop s)
  generalize (row.drop s).takeWhile Text.isWord = word at *
  generalize (row.drop s).dropWhile Text.isWord = rest at *
  have hrest : row.drop (s + word.length) = rest := by
    rw [← List.drop_drop, ← hcut, List.drop_left]
  refine ⟨s + word.length, by omega, ?_, ?_, ?_, hrest.symm⟩
  · intro j hsj hj
    have hin : j - s < word.length := by omega
    have hat : row[s + (j - s)]? = some word[j - s] := by
      rw [← List.getElem?_drop, ← hcut, List.getElem?_append_left hin]
      exact List.getElem?_eq_getElem hin
    rw [Nat.add_sub_cancel' hsj] at hat
    exact ⟨_, hat, List.all_eq_true.mp hinside _ (List.getElem_mem hin)⟩
  · rintro ⟨c, hc, hword⟩
    rw [← List.head?_drop, hrest] at hc
    rw [hc] at hnext
    simp [hword] at hnext
  · rw [List.extract_eq_take_drop, ← hcut]
    simp

/-- The scan to the right ends where the segment ends. -/
theorem rightRun_drop (row : List Char) (i : Nat) :
    ∃ r, EndsAt row i r ∧ rightRun (row.drop i) = (row.extract i r, row.drop r) := by
  by_cases hat : IsSigilAt row i ∨ IsWordAt row i
  · have hfrom : wordFrom row i = i + 1 := if_pos hat
    obtain ⟨r, hle, hword, hnext, htake, hdrop⟩ := takeWhile_drop row (i + 1)
    refine ⟨r, endsAt_iff.mpr (hfrom ▸ ⟨hle, hword, hnext⟩), ?_⟩
    obtain ⟨c, hc, hkind⟩ : ∃ c, row[i]? = some c ∧ (isSigil c = true ∨ Text.isWord c = true) := by
      rcases hat with ⟨c, hc, hkind⟩ | ⟨c, hc, hkind⟩
      · exact ⟨c, hc, Or.inl hkind⟩
      · exact ⟨c, hc, Or.inr hkind⟩
    have hcons : row.drop i = c :: row.drop (i + 1) := by
      rw [List.drop_eq_getElem?_toList_append, hc]
      rfl
    have hextract : row.extract i r = c :: row.extract (i + 1) r := by
      have hlength : r - i = r - (i + 1) + 1 := by omega
      rw [List.extract_eq_take_drop, List.extract_eq_take_drop, hcons, hlength, List.take_succ_cons]
    rw [hcons, rightRun, if_pos (by simpa using hkind), htake, hdrop, hextract]
  · have hfrom : wordFrom row i = i := if_neg hat
    rw [not_or] at hat
    refine ⟨i, endsAt_iff.mpr ⟨hfrom.le, by omega, hat.2⟩, ?_⟩
    rw [List.extract_eq_take_drop, Nat.sub_self, List.take_zero]
    cases hrest : row.drop i with
    | nil => rfl
    | cons c rest =>
      have hc : row[i]? = some c := by rw [← List.head?_drop, hrest]; rfl
      have hsigil : isSigil c = false := by simpa [IsSigilAt, hc] using hat.1
      have hword : Text.isWord c = false := by simpa [IsWordAt, hc] using hat.2
      simp [rightRun, hsigil, hword]

/-! ## The sigil -/

theorem reverse_take_cases (hl : l ≤ row.length) :
    (row.take l).reverse = [] ∧ charBefore row l 1 = none ∨
      ∃ c outer, (row.take l).reverse = c :: outer ∧ charBefore row l 1 = some c ∧
        outer.head? = charBefore row l 2 := by
  cases l with
  | zero => exact Or.inl ⟨rfl, rfl⟩
  | succ l =>
    refine Or.inr ⟨row[l], (row.take l).reverse, ?_, by simp [charBefore], ?_⟩
    · rw [List.take_add_one, List.getElem?_eq_getElem hl]
      simp
    · rw [head?_reverse_take (by omega)]
      simp only [charBefore, Nat.reduceSubDiff, Nat.reduceLeDiff]

theorem sigil?_around (hl : l ≤ row.length) (r : Nat) :
    sigil? (row.take l).reverse (row.drop r) = sigilAround row l r := by
  obtain ⟨hnil, hbefore⟩ | ⟨c, outer, hcons, hbefore, houter⟩ := reverse_take_cases hl
  · simp [hnil, sigilAround, hbefore, sigil?]
  · rw [hcons, sigilAround, hbefore, ← houter, ← List.head?_drop]
    by_cases hsigil : isSigil c = true
    · rw [sigil?_cons hsigil]
      rcases isSigil_iff.mp hsigil with rfl | rfl | rfl
      · by_cases hdollar : outer.head? = some '$' <;> simp [shownSigil, hdollar]
      · simp [shownSigil]
      · simp [shownSigil]
    · have hne : c ≠ '$' ∧ c ≠ '@' ∧ c ≠ '%' := by simpa [isSigil_iff] using hsigil
      by_cases hblock : c = '\x7b'
      · subst hblock
        cases outer with
        | nil => simp [sigil?]
        | cons d outer => simp [sigil?]
      · simp [sigil?, hne, hblock]

/-! ## The symbol -/

theorem symbolInLine_min (row : List Char) (i : Nat) :
    symbolInLine row i = symbolInLine row (min i row.length) := by
  by_cases hi : i ≤ row.length
  · rw [Nat.min_eq_left hi]
  · have hle : row.length ≤ i := by omega
    simp [symbolInLine, Nat.min_eq_right hle, List.take_of_length_le hle,
      List.drop_of_length_le hle]

theorem extract_append_extract (hli : l ≤ i) (hir : i ≤ r) :
    row.extract l i ++ row.extract i r = row.extract l r := by
  have hlength : r - l = (i - l) + (r - i) := by omega
  rw [List.extract_eq_take_drop, List.extract_eq_take_drop, List.extract_eq_take_drop, hlength,
    List.take_add, List.drop_drop, Nat.add_sub_cancel' hli]

theorem EndsAt.le (h : EndsAt row i r) : i ≤ r := by
  have hfrom : i ≤ wordFrom row i := by
    unfold wordFrom
    split <;> omega
  exact hfrom.trans h.1.1

/-- The symbol is the segment between its bounds, with its sigil. -/
theorem symbolInLine_segment (hne : row ≠ []) (hi : i ≤ row.length) (hl : BeginsAt row i l)
    (hr : EndsAt row i r) :
    symbolInLine row i = (sigilAround row l r).toList ++ row.extract l r := by
  obtain ⟨l', hl', hleft⟩ := leftRun_take hi
  obtain ⟨r', hr', hright⟩ := rightRun_drop row i
  obtain rfl : l' = l := hl'.unique hl
  obtain rfl : r' = r := hr'.unique hr
  rw [symbolInLine_eq hne, hleft, hright, sigil?_around (hl.le.trans hi), List.reverse_reverse,
    extract_append_extract hl.le hr.le]

/-- **The symbol is a maximal segment.** It begins as far to the left of the cursor as characters of
a symbol go, and ends with the word at the cursor; the characters around it decide its sigil. Where
there is no line, or an empty one, the symbol is empty. -/
theorem symbol_is_maximal_segment (position : Position) (text : String) :
    (∀ row, (Text.lines text.toList)[position.line]? = some row → row ≠ [] →
      ∃ l r, BeginsAt row (min position.character row.length) l ∧
        EndsAt row (min position.character row.length) r ∧
        symbolAt position text =
          String.ofList ((sigilAround row l r).toList ++ row.extract l r)) ∧
    ((Text.lines text.toList)[position.line]?.getD [] = [] → symbolAt position text = "") := by
  constructor
  · intro row hline hne
    have hi : min position.character row.length ≤ row.length := Nat.min_le_right _ _
    obtain ⟨l, hl, -⟩ := leftRun_take hi
    obtain ⟨r, hr, -⟩ := rightRun_drop row (min position.character row.length)
    refine ⟨l, r, hl, hr, ?_⟩
    rw [symbolAt_of_line hline, symbolInLine_min, symbolInLine_segment hne hi hl hr]
  · intro hempty
    cases hline : (Text.lines text.toList)[position.line]? with
    | none => simp [symbolAt, hline]
    | some row =>
      obtain rfl : row = [] := by simpa [hline] using hempty
      simp [symbolAt, hline, symbolInLine]

/-- In a block after a fat comma, where the sigil is that of the block. -/
theorem symbol_is_maximal_segment_block :
    (Text.lines "k=>@\x7brows\x7d".toList)[0]? = some "k=>@\x7brows\x7d".toList ∧
    symbolAt ⟨0, 7⟩ "k=>@\x7brows\x7d" = "@rows" ∧
    ∃ l r, BeginsAt "k=>@\x7brows\x7d".toList 7 l ∧ EndsAt "k=>@\x7brows\x7d".toList 7 r ∧
      symbolAt ⟨0, 7⟩ "k=>@\x7brows\x7d" =
        String.ofList ((sigilAround "k=>@\x7brows\x7d".toList l r).toList ++
          "k=>@\x7brows\x7d".toList.extract l r) := by
  have hline : (Text.lines "k=>@\x7brows\x7d".toList)[0]? = some "k=>@\x7brows\x7d".toList := by
    decide +kernel
  have hsymbol : symbolAt ⟨0, 7⟩ "k=>@\x7brows\x7d" = "@rows" := by decide +kernel
  exact ⟨hline, hsymbol, (symbol_is_maximal_segment ⟨0, 7⟩ _).1 _ hline (by decide)⟩

/-! ## The cursor in a word -/

/-- The characters from `a` on belong to a word that ends before `b`. -/
structure IsWordUpTo (row : List Char) (a b : Nat) : Prop where
  lt : a < b
  word : ∀ j, a ≤ j → j < b → IsWordAt row j
  ends : ¬ IsWordAt row b

variable {a b : Nat}

theorem IsWordAt.isLeftAt {j : Nat} (h : IsWordAt row j) : IsLeftAt row j := by
  obtain ⟨c, hc, hword⟩ := h
  refine ⟨c, hc, isLeftChar_of_isWord hword, ?_⟩
  rintro - rfl
  exact absurd hword (by decide)

theorem IsWordAt.lt_length {j : Nat} (h : IsWordAt row j) : j < row.length := by
  obtain ⟨c, hc, -⟩ := h
  exact (List.getElem?_eq_some_iff.mp hc).1

theorem IsWordUpTo.le_length (h : IsWordUpTo row a b) : b ≤ row.length := by
  have hlt := h.lt
  have hlast := (h.word (b - 1) (by omega) (by omega)).lt_length
  omega

/-- All the characters of a word are in the segment of a cursor after them. -/
theorem IsWordUpTo.beginsAt (h : IsWordUpTo row a b) (hl : BeginsAt row a l) (hai : a ≤ i)
    (hib : i ≤ b) : BeginsAt row i l := by
  induction i, hai using Nat.le_induction with
  | base => exact hl
  | succ i hai ih => exact (ih (by omega)).succ (h.word i hai (by omega)).isLeftAt

theorem IsWordUpTo.endsAt (h : IsWordUpTo row a b) (hai : a ≤ i) (hib : i < b) :
    EndsAt row i b := by
  have hfrom : wordFrom row i = i + 1 := if_pos (Or.inr (h.word i hai hib))
  rw [endsAt_iff, hfrom]
  exact ⟨hib, fun j hij hjb => h.word j (by omega) hjb, h.ends⟩

/-- Right after a word the segment ends, unless a sigil begins another one. -/
theorem IsWordUpTo.endsAt_end (h : IsWordUpTo row a b) (hsigil : ¬ IsSigilAt row b) :
    EndsAt row b b := by
  have hfrom : wordFrom row b = b := if_neg (not_or.mpr ⟨hsigil, h.ends⟩)
  rw [endsAt_iff, hfrom]
  exact ⟨le_rfl, by omega, h.ends⟩

theorem IsWordUpTo.symbol_eq (h : IsWordUpTo row a b) (hai : a ≤ i) (hib : i ≤ b)
    (hends : EndsAt row i b) : symbolInLine row i = symbolInLine row a := by
  have hlength := h.le_length
  have hlt := h.lt
  have hne : row ≠ [] := List.ne_nil_of_length_pos (by omega)
  obtain ⟨l, hl, -⟩ := leftRun_take (show a ≤ row.length by omega)
  rw [symbolInLine_segment hne (by omega) (h.beginsAt hl hai hib) hends,
    symbolInLine_segment hne (by omega) hl (h.endsAt le_rfl hlt)]

/-- **The place in a word does not matter.** The symbol is the same at every character of a word,
and right after it unless there is a sigil. Behind the end of the line it is the symbol at the
end. -/
theorem word_position_immaterial {text : String} {n : Nat} {row : List Char}
    (hline : (Text.lines text.toList)[n]? = some row) :
    (∀ a b, IsWordUpTo row a b →
      (∀ i, a ≤ i → i < b → symbolAt ⟨n, i⟩ text = symbolAt ⟨n, a⟩ text) ∧
      (¬ IsSigilAt row b → symbolAt ⟨n, b⟩ text = symbolAt ⟨n, a⟩ text)) ∧
    ∀ i, row.length ≤ i → symbolAt ⟨n, i⟩ text = symbolAt ⟨n, row.length⟩ text := by
  simp only [symbolAt_of_line hline, String.ofList_inj]
  refine ⟨?_, ?_⟩
  · intro a b h
    refine ⟨?_, ?_⟩
    · intro i hai hib
      exact h.symbol_eq hai hib.le (h.endsAt hai hib)
    · intro hsigil
      exact h.symbol_eq h.lt.le le_rfl (h.endsAt_end hsigil)
  · intro i hi
    rw [symbolInLine_min, Nat.min_eq_right hi]

/-- In a method at the end of a line, and right after it. -/
theorem word_position_immaterial_method :
    (Text.lines "my $x;\n$obj->run".toList)[1]? = some "$obj->run".toList ∧
    IsWordUpTo "$obj->run".toList 6 9 ∧ ¬ IsSigilAt "$obj->run".toList 9 ∧
    symbolAt ⟨1, 8⟩ "my $x;\n$obj->run" = symbolAt ⟨1, 6⟩ "my $x;\n$obj->run" ∧
    symbolAt ⟨1, 9⟩ "my $x;\n$obj->run" = symbolAt ⟨1, 6⟩ "my $x;\n$obj->run" ∧
    symbolAt ⟨1, 40⟩ "my $x;\n$obj->run" = symbolAt ⟨1, 9⟩ "my $x;\n$obj->run" := by
  have hline : (Text.lines "my $x;\n$obj->run".toList)[1]? = some "$obj->run".toList := by
    decide +kernel
  have hword : IsWordUpTo "$obj->run".toList 6 9 :=
    ⟨by decide, by decide +kernel, by decide⟩
  have hend : ¬ IsSigilAt "$obj->run".toList 9 := by decide
  obtain ⟨hrun, hbeyond⟩ := word_position_immaterial hline
  obtain ⟨hinside, hafter⟩ := hrun 6 9 hword
  exact ⟨hline, hword, hend, hinside 8 (by decide) (by decide), hafter hend,
    hbeyond 40 (by decide)⟩

end PerlSymbols.Cursor
