import PerlSymbols.Proofs.Cursor.Runs
import PerlSymbols.Text.Blank

/-!
# Chains of words

Package paths and method calls are chains of words, such as `Foo::Bar->new` or `$obj->part->name`.
Each word of a chain can be pointed at: wherever the cursor is on it, the symbol is the chain up to
this word, with the sigil of the chain. Only at the last word may the sigil change, when the access
to an element follows.
-/

namespace PerlSymbols

/-! ## Blanks -/

def Text.blankCodes : List Nat :=
  [9, 10, 11, 12, 13, 0x1C, 0x1D, 0x1E, 0x1F, 0x20, 0x85, 0xA0, 0x1680, 0x2000, 0x2001, 0x2002,
    0x2003, 0x2004, 0x2005, 0x2006, 0x2007, 0x2008, 0x2009, 0x200A, 0x2028, 0x2029, 0x202F, 0x205F,
    0x3000]

theorem Text.mem_blankCodes {c : Char} (h : isBlank c = true) : c.toNat ∈ blankCodes := by
  have hspace : c = ' ' ↔ c.toNat = 0x20 :=
    ⟨fun hc => hc ▸ rfl, fun hc => by rw [← Char.ofNat_toNat c, hc]⟩
  simp only [isBlank, isNumberBlank, isAsciiBlank, isWideBlank, Bool.or_eq_true, Bool.and_eq_true,
    beq_iff_eq, decide_eq_true_eq, List.contains_eq_mem, hspace, List.mem_cons, List.not_mem_nil,
    or_false] at h
  simp only [blankCodes, List.mem_cons, List.not_mem_nil, or_false]
  omega

namespace Cursor

/-- A blank is no part of a symbol, and names none. -/
theorem isBlank_apart {c : Char} (h : Text.isBlank c = true) :
    isLeftChar c = false ∧ isSigil c = false ∧ c ≠ '\x7b' := by
  have hnone : ∀ n ∈ Text.blankCodes,
      isLeftChar (Char.ofNat n) = false ∧ isSigil (Char.ofNat n) = false ∧
        Char.ofNat n ≠ '\x7b' := by
    -- The table of letters is read as a list, which the kernel goes through much faster.
    simp only [isLeftChar, Text.isWord, Text.inRanges, ← Array.any_toList]
    decide +kernel
  simpa only [Char.ofNat_toNat] using hnone _ (Text.mem_blankCodes h)

/-! ## Chains -/

structure Word where
  chars : List Char
  ne_nil : chars ≠ []
  isWord : ∀ c ∈ chars, Text.isWord c = true

/-- What joins two words: a package separator or a method arrow. -/
inductive Joint where
  | colons
  | arrow

def Joint.text : Joint → List Char
  | .colons => [':', ':']
  | .arrow => ['-', '>']

/-- One word or more, each joined to the next. -/
inductive Chain where
  | last (word : Word)
  | link (word : Word) (joint : Joint) (rest : Chain)

namespace Chain

def text : Chain → List Char
  | last word => word.chars
  | link word joint rest => word.chars ++ joint.text ++ rest.text

def size : Chain → Nat
  | last _ => 1
  | link _ _ rest => rest.size + 1

/-- The word with a number, counted from zero. -/
def word? : Chain → Nat → Option Word
  | last word, 0 => some word
  | last _, _ + 1 => none
  | link word _ _, 0 => some word
  | link _ _ rest, k + 1 => rest.word? k

/-- The text in front of the word with a number. -/
def textBefore : Chain → Nat → List Char
  | link word joint rest, k + 1 => word.chars ++ joint.text ++ rest.textBefore k
  | _, _ => []

/-- The text after the word with a number. -/
def textAfter : Chain → Nat → List Char
  | last _, _ => []
  | link _ joint rest, 0 => joint.text ++ rest.text
  | link _ _ rest, k + 1 => rest.textAfter k

theorem text_eq {chain : Chain} {k : Nat} {word : Word} (h : chain.word? k = some word) :
    chain.text = chain.textBefore k ++ (word.chars ++ chain.textAfter k) := by
  induction chain generalizing k with
  | last first =>
    cases k with
    | zero => cases h; simp [text, textBefore, textAfter]
    | succ k => cases h
  | link first joint rest ih =>
    cases k with
    | zero => cases h; simp [text, textBefore, textAfter]
    | succ k => simp [text, textBefore, textAfter, ih h]

theorem isPath_joint (joint : Joint) : IsPath joint.text := by
  cases joint with
  | colons => exact ⟨List.all_eq_true.mp (by decide), by decide⟩
  | arrow => exact ⟨List.all_eq_true.mp (by decide), by decide⟩

theorem isPath_textBefore (chain : Chain) (k : Nat) : IsPath (chain.textBefore k) := by
  induction chain generalizing k with
  | last _ => exact isPath_nil
  | link first joint rest ih =>
    cases k with
    | zero => exact isPath_nil
    | succ k => exact ((isPath_word first.isWord).append (isPath_joint joint)).append (ih k)

theorem size_pos (chain : Chain) : 0 < chain.size := by
  cases chain <;> simp [size]

/-- After the last word the chain ends, and after any other word its joint follows. -/
theorem textAfter_cases {chain : Chain} {k : Nat} {word : Word} (h : chain.word? k = some word) :
    k + 1 = chain.size ∧ chain.textAfter k = [] ∨
      k + 1 ≠ chain.size ∧ ∃ joint rest, chain.textAfter k = Joint.text joint ++ rest := by
  induction chain generalizing k with
  | last _ =>
    cases k with
    | zero => exact Or.inl ⟨rfl, rfl⟩
    | succ k => cases h
  | link first joint rest ih =>
    cases k with
    | zero =>
      have := rest.size_pos
      exact Or.inr ⟨by simp only [size]; omega, joint, rest.text, rfl⟩
    | succ k => simpa [size, textAfter] using ih h

end Chain

/-! ## Sigils of chains -/

section Line

variable {lead after : List Char} {sigil : Option Char}

/-- The scan to the left ends at the sigil, or at the blank where there is none. -/
theorem leftRun_lead (hlead : ∀ c ∈ lead.getLast?, Text.isBlank c = true)
    (hsigil : ∀ c ∈ sigil, isSigil c = true) :
    leftRun (lead ++ sigil.toList).reverse = ([], (lead ++ sigil.toList).reverse) := by
  apply leftRun_of_not_left
  intro c hc
  cases sigil with
  | none => exact (isBlank_apart (hlead c (by simpa using hc))).1
  | some s =>
    have hs : s = c := by simpa using hc
    exact isLeftChar_of_isSigil (hs ▸ hsigil s rfl)

theorem sigil?_lead (hlead : ∀ c ∈ lead.getLast?, Text.isBlank c = true)
    (hsigil : ∀ c ∈ sigil, isSigil c = true) :
    sigil? (lead ++ sigil.toList).reverse after = shownSigil sigil after.head? := by
  rw [List.reverse_append]
  cases sigil with
  | none =>
    have happart : ∀ c ∈ lead.reverse.head?, isSigil c = false ∧ c ≠ '\x7b' :=
      fun c hc => (isBlank_apart (hlead c (by simpa using hc))).2
    have hnone : sigil? lead.reverse after = none := by
      refine sigil?_eq_none_iff.mpr ⟨fun c hc => (happart c hc).1, ?_⟩
      rintro ⟨outer, rest, hrev, -⟩
      exact (happart '\x7b' (by simp [hrev])).2 rfl
    simpa [shownSigil] using hnone
  | some s =>
    have hblank : lead.reverse.head? ≠ some '$' := by
      intro hdollar
      have happart := (isBlank_apart (hlead '$' (by simpa using hdollar))).2.1
      exact absurd happart (by decide)
    exact (sigil?_cons (hsigil s rfl)).trans (if_neg hblank)

end Line

theorem shownSigil_joint (sigil : Option Char) (joint : Joint) (rest : List Char) :
    shownSigil sigil (joint.text ++ rest).head? = sigil := by
  cases joint <;> simp [shownSigil, Joint.text]

theorem shownSigil_textAfter {chain : Chain} {k : Nat} {word : Word}
    (h : chain.word? k = some word) (sigil : Option Char) (tail : List Char) :
    shownSigil sigil (chain.textAfter k ++ tail).head? =
      if k + 1 = chain.size then shownSigil sigil tail.head? else sigil := by
  obtain ⟨hlast, hafter⟩ | ⟨hnot, joint, rest, hafter⟩ := Chain.textAfter_cases h
  · rw [if_pos hlast, hafter, List.nil_append]
  · rw [if_neg hnot, hafter, List.append_assoc, shownSigil_joint]

theorem isWord_textAfter {chain : Chain} {k : Nat} {word : Word} (h : chain.word? k = some word)
    {tail : List Char} (htail : ∀ c ∈ tail.head?, Text.isWord c = false) :
    ∀ c ∈ (chain.textAfter k ++ tail).head?, Text.isWord c = false := by
  obtain ⟨_, hafter⟩ | ⟨_, joint, rest, hafter⟩ := Chain.textAfter_cases h
  · rwa [hafter, List.nil_append]
  · intro c hc
    rw [hafter] at hc
    cases joint with
    | colons => cases hc; decide
    | arrow => cases hc; decide

/-- **Every word of a chain can be pointed at.** The chain stands at the start of a line or after a
blank, with or without a sigil, and its last word ends there. At every character of a word the
symbol is the chain up to this word, with the sigil of the chain. After the last word, `[` and `{`
show that the sigil `$` is that of an element. -/
theorem chain_words_addressable {text : String} {n : Nat} {lead tail : List Char}
    {sigil : Option Char} {chain : Chain}
    (hline : (Text.lines text.toList)[n]? = some (lead ++ sigil.toList ++ chain.text ++ tail))
    (hlead : ∀ c ∈ lead.getLast?, Text.isBlank c = true)
    (hsigil : ∀ c ∈ sigil, isSigil c = true)
    (htail : ∀ c ∈ tail.head?, Text.isWord c = false)
    {k : Nat} {word : Word} (hword : chain.word? k = some word) {i : Nat}
    (hi : i < word.chars.length) :
    symbolAt ⟨n, (lead ++ sigil.toList ++ chain.textBefore k).length + i⟩ text =
      String.ofList ((if k + 1 = chain.size then shownSigil sigil tail.head? else sigil).toList ++
        (chain.textBefore k ++ word.chars)) := by
  have hrun : leftRun (lead ++ sigil.toList ++ chain.textBefore k).reverse =
      ((chain.textBefore k).reverse, (lead ++ sigil.toList).reverse) := by
    rw [List.reverse_append, (chain.isPath_textBefore k).leftRun, leftRun_lead hlead hsigil,
      List.append_nil]
  have hcut : lead ++ sigil.toList ++ chain.text ++ tail =
      (lead ++ sigil.toList ++ chain.textBefore k) ++
        (word.chars ++ (chain.textAfter k ++ tail)) := by
    rw [Chain.text_eq hword]
    simp
  rw [symbolAt_of_line hline, hcut,
    symbolInLine_word word.isWord (isWord_textAfter hword htail) hi, hrun,
    sigil?_lead hlead hsigil, shownSigil_textAfter hword, List.reverse_reverse]

def lastWord : Word :=
  ⟨"bar".toList, by decide, List.all_eq_true.mp (by decide)⟩

/-- The chain `obj->foo::bar`. -/
def mixedChain : Chain :=
  .link ⟨"obj".toList, by decide, List.all_eq_true.mp (by decide)⟩ .arrow
    (.link ⟨"foo".toList, by decide, List.all_eq_true.mp (by decide)⟩ .colons (.last lastWord))

/-- In the last word, right before the access to an element of a hash. -/
theorem chain_words_addressable_access :
    (Text.lines "my $x;\n\t$obj->foo::bar\x7bkey\x7d".toList)[1]? =
      some (['\t'] ++ (some '$').toList ++ mixedChain.text ++ "\x7bkey\x7d".toList) ∧
    mixedChain.word? 2 = some lastWord ∧
    symbolAt ⟨1, 13⟩ "my $x;\n\t$obj->foo::bar\x7bkey\x7d" = "%obj->foo::bar" := by
  have hline : (Text.lines "my $x;\n\t$obj->foo::bar\x7bkey\x7d".toList)[1]? =
      some (['\t'] ++ (some '$').toList ++ mixedChain.text ++ "\x7bkey\x7d".toList) := by
    decide +kernel
  have hword : mixedChain.word? 2 = some lastWord := rfl
  have hinside : 1 < lastWord.chars.length := by decide
  have hplace : (['\t'] ++ (some '$').toList ++ mixedChain.textBefore 2).length + 1 = 13 := rfl
  have hblank : ∀ c ∈ ['\t'].getLast?, Text.isBlank c = true := by rintro c ⟨⟩; rfl
  have hsigil : ∀ c ∈ some '$', isSigil c = true := by rintro c ⟨⟩; rfl
  have hend : ∀ c ∈ "\x7bkey\x7d".toList.head?, Text.isWord c = false := by rintro c ⟨⟩; rfl
  have hsymbol := chain_words_addressable hline hblank hsigil hend hword hinside
  rw [hplace] at hsymbol
  exact ⟨hline, hword, hsymbol.trans (by decide)⟩

end Cursor

end PerlSymbols
