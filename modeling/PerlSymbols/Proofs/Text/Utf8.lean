import Mathlib.Tactic.SplitIfs
import PerlSymbols.Text.Utf8

/-!
# Reading what was written as UTF-8

The octets of a character, read one after the other, give that character and leave the reader
between characters. The range that a lead octet sets for the octet after it excludes nothing that is
written for a character.
-/

namespace PerlSymbols.Text.Utf8

/-- Reads octets one after the other: the characters that are complete, and where the reader stands
then. -/
def readAll (state : State) : List UInt8 → List Char × State
  | [] => ([], state)
  | b :: rest =>
    let (out, next) := step state b
    let (more, last) := readAll next rest
    (out ++ more, last)

theorem toNat_octet {n : Nat} (h : n < 256) : (UInt8.ofNat n).toNat = n :=
  UInt8.toNat_ofNat_of_lt' h

/-! ## One octet -/

theorem step_start {n : Nat} (h : n < 256) :
    step .start (UInt8.ofNat n) =
      if n < 0x80 then ([Char.ofNat n], .start)
      else if n < 0xC2 then ([replacement], .start)
      else if n < 0xE0 then ([], .within (n - 0xC0) 0 0x80 0xBF)
      else if n = 0xE0 then ([], .within 0 1 0xA0 0xBF)
      else if n = 0xED then ([], .within 0xD 1 0x80 0x9F)
      else if n < 0xF0 then ([], .within (n - 0xE0) 1 0x80 0xBF)
      else if n = 0xF0 then ([], .within 0 2 0x90 0xBF)
      else if n < 0xF4 then ([], .within (n - 0xF0) 2 0x80 0xBF)
      else if n = 0xF4 then ([], .within 4 2 0x80 0x8F)
      else ([replacement], .start) := by
  simp only [step, begin, UInt8.lt_iff_toNat_lt, beq_iff_eq, ← UInt8.toNat_inj, toNat_octet h]
  rfl

section Tail

variable {bits n : Nat} {lo hi : UInt8}

theorem step_last (hlo : lo.toNat ≤ n) (hhi : n ≤ hi.toNat) :
    step (.within bits 0 lo hi) (UInt8.ofNat n) =
      ([Char.ofNat (bits * 64 + (n - 0x80))], .start) := by
  have hn : (UInt8.ofNat n).toNat = n := toNat_octet (Nat.lt_of_le_of_lt hhi hi.toNat_lt)
  simp [step, UInt8.le_iff_toNat_le, hn, hlo, hhi]

theorem step_owed (owed : Nat) (hlo : lo.toNat ≤ n) (hhi : n ≤ hi.toNat) :
    step (.within bits (owed + 1) lo hi) (UInt8.ofNat n) =
      ([], .within (bits * 64 + (n - 0x80)) owed 0x80 0xBF) := by
  have hn : (UInt8.ofNat n).toNat = n := toNat_octet (Nat.lt_of_le_of_lt hhi hi.toNat_lt)
  simp [step, UInt8.le_iff_toNat_le, hn, hlo, hhi]

end Tail

/-! ## The octets of a character -/

section Character

variable {v : Nat}

theorem step_one (h : v ≤ 0x7F) : step .start (UInt8.ofNat v) = ([Char.ofNat v], .start) := by
  rw [step_start (by omega), if_pos (by omega)]

theorem step_two (hlo : 0x7F < v) (hhi : v ≤ 0x7FF) :
    step .start (UInt8.ofNat (v / 64 % 32 + 192)) = ([], .within (v / 64) 0 0x80 0xBF) := by
  have hbits : v / 64 % 32 + 192 - 0xC0 = v / 64 := by omega
  rw [step_start (by omega), if_neg (by omega), if_neg (by omega), if_pos (by omega), hbits]

/-- The second octet is in range: above the shorter forms, and outside the surrogates. -/
theorem step_three (hlo : 0x7FF < v) (hhi : v ≤ 0xFFFF) (hvalid : v < 0xD800 ∨ 0xDFFF < v) :
    ∃ lo hi : UInt8, step .start (UInt8.ofNat (v / 4096 % 16 + 224)) =
        ([], .within (v / 4096) 1 lo hi) ∧
      lo.toNat ≤ v / 64 % 64 + 128 ∧ v / 64 % 64 + 128 ≤ hi.toNat := by
  rw [step_start (by omega), if_neg (by omega), if_neg (by omega), if_neg (by omega)]
  by_cases hfirst : v / 4096 = 0
  · rw [if_pos (by omega), hfirst]
    exact ⟨0xA0, 0xBF, rfl, by simp; omega, by simp; omega⟩
  rw [if_neg (by omega)]
  by_cases hsurrogate : v / 4096 = 0xD
  · rw [if_pos (by omega), hsurrogate]
    exact ⟨0x80, 0x9F, rfl, by simp, by simp; omega⟩
  have hbits : v / 4096 % 16 + 224 - 0xE0 = v / 4096 := by omega
  rw [if_neg (by omega), if_pos (by omega), hbits]
  exact ⟨0x80, 0xBF, rfl, by simp, by simp; omega⟩

/-- The second octet is in range: above the shorter forms, and below the last code point. -/
theorem step_four (hlo : 0xFFFF < v) (hhi : v < 0x110000) :
    ∃ lo hi : UInt8, step .start (UInt8.ofNat (v / 262144 % 8 + 240)) =
        ([], .within (v / 262144) 2 lo hi) ∧
      lo.toNat ≤ v / 4096 % 64 + 128 ∧ v / 4096 % 64 + 128 ≤ hi.toNat := by
  rw [step_start (by omega), if_neg (by omega), if_neg (by omega), if_neg (by omega),
    if_neg (by omega), if_neg (by omega), if_neg (by omega)]
  by_cases hfirst : v / 262144 = 0
  · rw [if_pos (by omega), hfirst]
    exact ⟨0x90, 0xBF, rfl, by simp; omega, by simp; omega⟩
  rw [if_neg (by omega)]
  by_cases hlast : v / 262144 = 4
  · rw [if_neg (by omega), if_pos (by omega), hlast]
    exact ⟨0x80, 0x8F, rfl, by simp, by simp; omega⟩
  have hbits : v / 262144 % 8 + 240 - 0xF0 = v / 262144 := by omega
  rw [if_pos (by omega), hbits]
  exact ⟨0x80, 0xBF, rfl, by simp, by simp; omega⟩

end Character

theorem readAll_cons {state next : State} {b : UInt8} {out : List Char} (rest : List UInt8)
    (h : step state b = (out, next)) :
    readAll state (b :: rest) = (out ++ (readAll next rest).1, (readAll next rest).2) := by
  simp [readAll, h]

theorem readAll_tail (bits : Nat) {m : Nat} {lo hi : UInt8} (hlo : lo.toNat ≤ m % 64 + 128)
    (hhi : m % 64 + 128 ≤ hi.toNat) :
    readAll (.within bits 0 lo hi) [UInt8.ofNat (m % 64 + 128)] =
      ([Char.ofNat (bits * 64 + m % 64)], .start) := by
  rw [readAll_cons [] (step_last hlo hhi)]
  simp [readAll]

theorem readAll_encodeChar (c : Char) : readAll .start (encodeChar c) = ([c], .start) := by
  have hvalid : c.toNat < 0xD800 ∨ 0xDFFF < c.toNat ∧ c.toNat < 0x110000 := c.valid
  have hchar : Char.ofNat c.toNat = c := c.ofNat_toNat
  have hval : c.val.toNat = c.toNat := rfl
  simp only [encodeChar, String.utf8EncodeChar, hval]
  generalize c.toNat = v at hvalid hchar ⊢
  split_ifs with hone htwo hthree
  · rw [readAll_cons [] (step_one hone), hchar]
    rfl
  · have hbits : v / 64 * 64 + v % 64 = v := by omega
    rw [readAll_cons _ (step_two (by omega) htwo), readAll_tail _ (by simp) (by simp; omega),
      hbits, hchar]
    rfl
  · obtain ⟨lo, hi, hlead, hlo, hhi⟩ := step_three (by omega) hthree (by omega)
    have hbits : (v / 4096 * 64 + (v / 64 % 64 + 128 - 0x80)) * 64 + v % 64 = v := by omega
    rw [readAll_cons _ hlead, readAll_cons _ (step_owed 0 hlo hhi),
      readAll_tail _ (by simp) (by simp; omega), hbits, hchar]
    rfl
  · obtain ⟨lo, hi, hlead, hlo, hhi⟩ := step_four (v := v) (by omega) (by omega)
    have hbits : ((v / 262144 * 64 + (v / 4096 % 64 + 128 - 0x80)) * 64 +
        (v / 64 % 64 + 128 - 0x80)) * 64 + v % 64 = v := by omega
    rw [readAll_cons _ hlead, readAll_cons _ (step_owed 1 hlo hhi),
      readAll_cons _ (step_owed 0 (by simp) (by simp; omega)),
      readAll_tail _ (by simp) (by simp; omega), hbits, hchar]
    rfl

end PerlSymbols.Text.Utf8
