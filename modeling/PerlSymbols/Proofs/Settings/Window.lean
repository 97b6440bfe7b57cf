import Mathlib
import PerlSymbols.Proofs.Decimal.Rounding
import PerlSymbols.Proofs.Settings.Accepted
import PerlSymbols.Proofs.Settings.Paths

/-!
# How long a request may wait

An interval is refused if it is zero or less. What is no number is neither, and so it is accepted:
then the time that a request may wait is no number. Otherwise it is positive, unless there is no
binary number for the retries.
-/

namespace PerlSymbols.Settings

open Text Checked

/-! ## Texts that are no number -/

/-- The text spells what is no number, after a sign or without one. -/
def spellsNan (cs : List Char) : Bool :=
  String.ofList ((Decimal.readSign cs).2.map Char.toLower) == "nan"

/-- The value stands for what is no number. A text may have blanks around it, or underscores in
it. -/
def IsNan : Value → Prop
  | .float x => x.isNaN = true
  | .text s =>
    spellsNan (trimBoth isNumberBlank s.toList) = true ∨
      (dropUnderscores s.toList).any spellsNan = true
  | _ => False

theorem toLower_of_isNumberBlank {c : Char} (h : isNumberBlank c = true) : c.toLower = c := by
  unfold Char.toLower
  rw [dif_neg]
  rintro ⟨hlow, hhigh⟩
  replace hlow : 65 ≤ c.toNat := hlow
  replace hhigh : c.toNat ≤ 90 := hhigh
  simp only [isNumberBlank, isAsciiBlank, isWideBlank, Bool.or_eq_true, Bool.and_eq_true,
    beq_iff_eq, decide_eq_true_eq, List.contains_iff_mem, List.mem_cons, List.not_mem_nil,
    or_false] at h
  rcases h with (rfl | h) | h
  · exact absurd hlow (by decide)
  · omega
  · omega

theorem not_blank_of_spellsNan {cs : List Char} (h : spellsNan cs = true) :
    ∀ c ∈ cs, isNumberBlank c = false := by
  have hblank : ∀ c ∈ ['n', 'a', 'n'], isNumberBlank c = false := by
    simp only [List.forall_mem_cons, List.not_mem_nil, false_implies, implies_true, and_true]
    decide
  have hletters : (Decimal.readSign cs).2.map Char.toLower = ['n', 'a', 'n'] := by
    have hword := congrArg String.toList (beq_iff_eq.mp h)
    rwa [String.toList_ofList] at hword
  have hbody : ∀ c ∈ (Decimal.readSign cs).2, isNumberBlank c = false := by
    intro c hc
    rw [Bool.eq_false_iff]
    intro hb
    have hmem : c.toLower ∈ ['n', 'a', 'n'] := by
      rw [← hletters]
      exact List.mem_map_of_mem hc
    rw [toLower_of_isNumberBlank hb] at hmem
    rw [hblank c hmem] at hb
    cases hb
  revert hbody
  unfold Decimal.readSign
  split
  · exact fun hbody => List.forall_mem_cons.mpr ⟨by decide, hbody⟩
  · exact fun hbody => List.forall_mem_cons.mpr ⟨by decide, hbody⟩
  · exact id

theorem trimBoth_eq_self {p : Char → Bool} {cs : List Char} (h : ∀ c ∈ cs, p c = false) :
    trimBoth p cs = cs := by
  have hdrop : ∀ {l : List Char}, (∀ c ∈ l, p c = false) → l.dropWhile p = l := by
    intro l hl
    cases l with
    | nil => rfl
    | cons c l => rw [List.dropWhile_cons_of_neg (by simp [hl c])]
  rw [trimBoth, hdrop h, hdrop (by simpa using h), List.reverse_reverse]

theorem mem_dropWhile {p : Char → Bool} {c : Char} {cs : List Char} (hp : p c = false)
    (h : c ∈ cs) : c ∈ cs.dropWhile p := by
  have happend : cs.takeWhile p ++ cs.dropWhile p = cs := List.takeWhile_append_dropWhile
  rw [← happend, List.mem_append] at h
  rcases h with h | h
  · rw [List.mem_takeWhile_imp h] at hp
    cases hp
  · exact h

theorem mem_trimBoth {p : Char → Bool} {c : Char} {cs : List Char} (hp : p c = false)
    (h : c ∈ cs) : c ∈ trimBoth p cs := by
  rw [trimBoth, List.mem_reverse]
  exact mem_dropWhile hp (List.mem_reverse.mpr (mem_dropWhile hp h))

theorem underscore_mem_readSign {cs : List Char} (h : '_' ∈ cs) :
    '_' ∈ (Decimal.readSign cs).2 := by
  unfold Decimal.readSign
  split <;> simpa using h

/-- No underscore belongs to a numeral. -/
theorem underscore_mem_readNumeral {openPoint : Bool} {cs : List Char} (h : '_' ∈ cs) :
    '_' ∈ (Decimal.readNumeral openPoint cs).2 := by
  unfold Decimal.readNumeral
  extract_lets whole afterWhole
  have hwhole : '_' ∈ afterWhole := mem_dropWhile rfl h
  clear_value whole afterWhole
  split
  next fraction afterFraction hfraction =>
  have hafter : '_' ∈ afterFraction := by
    split at hfraction
    · next rest =>
      dsimp only at hfraction
      split at hfraction
      · cases hfraction
        exact hwhole
      · cases hfraction
        exact mem_dropWhile rfl (by simpa using hwhole)
    · cases hfraction
      exact hwhole
  split
  next exponent rest hexponent =>
  split at hexponent
  · next mark after =>
    split at hexponent
    · next hmark =>
      have hne : '_' ≠ mark := by
        rintro rfl
        exact absurd hmark (by decide)
      split at hexponent
      next negative unsigned hsign =>
      have hunsigned : '_' ∈ unsigned := by
        have hmem := underscore_mem_readSign (List.mem_of_ne_of_mem hne hafter)
        rwa [hsign] at hmem
      dsimp only at hexponent
      split at hexponent
      · cases hexponent
        exact hafter
      · cases hexponent
        exact mem_dropWhile rfl hunsigned
    · cases hexponent
      exact hafter
  · cases hexponent
    exact hafter

theorem underscore_not_mem_of_readNumberText {cs : List Char} {x : Float}
    (h : Decimal.readNumberText cs = some x) : '_' ∉ cs := by
  intro hmem
  have hbody := underscore_mem_readSign hmem
  unfold Decimal.readNumberText at h
  generalize Decimal.readSign cs = signed at h hbody
  obtain ⟨negative, body⟩ := signed
  have hword (text : String) (ht : '_' ∉ text.toList) :
      (String.ofList (body.map Char.toLower) == text) = false := by
    rw [beq_eq_false_iff_ne]
    rintro rfl
    rw [String.toList_ofList] at ht
    exact ht (List.mem_map.mpr ⟨'_', hbody, rfl⟩)
  simp only [hword "inf" (by decide), hword "infinity" (by decide), hword "nan" (by decide),
    Bool.or_self, Bool.false_eq_true, if_false] at h
  split at h
  · next n hnumeral =>
    have hrest : '_' ∈ (Decimal.readNumeral true body).2 := underscore_mem_readNumeral hbody
    rw [hnumeral] at hrest
    cases hrest
  · cases h

theorem eq_of_dropUnderscores {cs dropped : List Char} (hnone : '_' ∉ cs)
    (h : dropUnderscores cs = some dropped) : dropped = cs := by
  unfold dropUnderscores at h
  split at h
  · cases h
  · cases h
    rw [List.filter_eq_self]
    intro c hc
    simp only [bne_iff_ne]
    rintro rfl
    exact hnone hc

/-- What is read from a text is a number unless the text says that it is none. -/
theorem isNaN_of_readNumberText {cs : List Char} {x : Float}
    (h : Decimal.readNumberText cs = some x) : x.isNaN = spellsNan cs := by
  unfold Decimal.readNumberText at h
  unfold spellsNan
  generalize Decimal.readSign cs = signed at h
  obtain ⟨negative, body⟩ := signed
  dsimp only at h ⊢
  generalize String.ofList (body.map Char.toLower) = word at h
  split at h
  · next hinf =>
    cases h
    have hword : (word == "nan") = false := by
      rcases Bool.or_eq_true_iff.mp hinf with hw | hw <;> rw [beq_iff_eq.mp hw] <;> decide
    rw [hword]
    cases negative <;> rfl
  · split at h
    · next hnan =>
      cases h
      rw [hnan]
      rfl
    · next hword =>
      rw [Bool.not_eq_true] at hword
      rw [hword]
      split at h
      · split at h
        · cases h
          exact Decimal.isNaN_nearest _ _ _
        · cases h
      · cases h

theorem readNumberText_of_spellsNan {cs : List Char} (h : spellsNan cs = true) :
    ∃ x, Decimal.readNumberText cs = some x := by
  unfold Decimal.readNumberText
  unfold spellsNan at h
  generalize Decimal.readSign cs = signed at h
  obtain ⟨negative, body⟩ := signed
  dsimp only at h ⊢
  rw [h]
  split
  · exact ⟨_, rfl⟩
  · exact ⟨_, rfl⟩

/-- A text that can be read as it stands has no underscore, and then there is but one way to read
it. -/
theorem isNaN_of_readFloatText {s : String} {x : Float} (h : readFloatText s = some x) :
    x.isNaN = true ↔ IsNan (.text s) := by
  unfold readFloatText at h
  rw [IsNan]
  cases hfirst : Decimal.readNumberText (trimBoth isNumberBlank s.toList) with
  | some y =>
    rw [hfirst, Option.some_or] at h
    cases h
    rw [isNaN_of_readNumberText hfirst]
    refine ⟨Or.inl, fun hor => hor.elim id fun hany => ?_⟩
    have hnone : '_' ∉ s.toList := fun hmem =>
      underscore_not_mem_of_readNumberText hfirst (mem_trimBoth rfl hmem)
    obtain ⟨cs, hcs, hspells⟩ := (Option.any_eq_true _ _).mp hany
    obtain rfl := eq_of_dropUnderscores hnone hcs
    rw [trimBoth_eq_self (not_blank_of_spellsNan hspells)]
    exact hspells
  | none =>
    rw [hfirst, Option.none_or] at h
    obtain ⟨cs, hcs, hread⟩ := Option.bind_eq_some_iff.mp h
    rw [isNaN_of_readNumberText hread, hcs, Option.any_some]
    refine ⟨Or.inr, fun hor => hor.elim (fun htrim => ?_) id⟩
    obtain ⟨y, hy⟩ := readNumberText_of_spellsNan htrim
    rw [hy] at hfirst
    cases hfirst

theorem isNaN_of_checkNumber {v : Value} {x : Float} (h : checkNumber v = .accepted x) :
    x.isNaN = true ↔ IsNan v := by
  cases v with
  | float y =>
    cases h
    rfl
  | int n =>
    simp only [checkNumber] at h
    split at h
    · next hx =>
      cases h
      rw [Decimal.isNaN_of_ofInt? hx]
      simp only [IsNan, Bool.false_eq_true]
    · simp at h
  | bool b =>
    cases h
    cases b <;> simp only [IsNan, iff_false] <;> exact Bool.false_ne_true
  | text s =>
    simp only [checkNumber] at h
    split at h
    · next hx =>
      cases h
      exact isNaN_of_readFloatText hx
    · simp at h
  | null | stamp | list | map => simp [checkNumber] at h

/-! ## The window -/

/-- What accepted settings say about the time that a request may wait, by the value that was given
for the interval, if there was one. -/
structure Window (given : Option Value) (index : IndexSettings) : Prop where
  retries : 1 ≤ index.retries
  interval : 0.0 < index.interval ↔ ¬ ∃ v ∈ given, IsNan v
  timeout : (∃ t, index.waitTimeout = .ok t ∧ 0.0 < t) ↔
    (¬ ∃ v ∈ given, IsNan v) ∧ Decimal.ofInt? index.retries ≠ none

theorem isNaN_of_checkField {entries : Entries Key Value} {x : Float}
    (h : checkField entries "poll_interval_sec" ({} : IndexSettings).interval checkInterval =
      .accepted x) :
    x.isNaN = true ↔ ∃ v ∈ entries.get? (.text "poll_interval_sec"), IsNan v := by
  rw [checkField_eq_accepted] at h
  split at h
  · next hnone =>
    have hdefault : ({} : IndexSettings).interval.isNaN = false := rfl
    rw [hnone, h, hdefault]
    simp
  · next v hsome =>
    rw [hsome]
    simpa using isNaN_of_checkNumber (checkInterval_eq_accepted.mp h).1

theorem timeout_pos_iff {index : IndexSettings} (hretries : 1 ≤ index.retries)
    (hinterval : 0.0 < index.interval ∨ index.interval.isNaN = true) :
    (∃ t, index.waitTimeout = .ok t ∧ 0.0 < t) ↔
      0.0 < index.interval ∧ Decimal.ofInt? index.retries ≠ none := by
  unfold IndexSettings.waitTimeout
  cases hn : Decimal.ofInt? index.retries with
  | none => simp
  | some y =>
    simp only [Except.ok.injEq, exists_eq_left', ne_eq, reduceCtorEq, not_false_eq_true, and_true]
    constructor
    · intro hproduct
      refine hinterval.resolve_right fun hnan => ?_
      exact Decimal.not_pos_of_isNaN (Decimal.isNaN_mul_left hnan y) hproduct
    · intro hpos
      exact Decimal.mul_pos_of_isLarge hpos (Decimal.isLarge_of_ofInt? hretries hn)

theorem window_of_checkIndexFields {entries : Entries Key Value} {index : IndexSettings}
    (h : checkIndexFields entries = .accepted index) :
    Window (entries.get? (.text "poll_interval_sec")) index := by
  obtain ⟨hle, hretries⟩ := checkIndexFields_keeps h
  have hpos := (Decimal.not_le_zero_iff index.interval).mp hle
  have hnan : index.interval.isNaN = true ↔
      ∃ v ∈ entries.get? (.text "poll_interval_sec"), IsNan v := by
    obtain ⟨interval, retries, hinterval, -, rfl⟩ := both_eq_accepted.mp h
    exact isNaN_of_checkField hinterval
  have hiff : 0.0 < index.interval ↔
      ¬ ∃ v ∈ entries.get? (.text "poll_interval_sec"), IsNan v := by
    rw [← hnan]
    exact ⟨fun h hn => Decimal.not_pos_of_isNaN hn h, hpos.resolve_right⟩
  refine ⟨hretries, hiff, ?_⟩
  rw [← hiff]
  exact timeout_pos_iff hretries hpos

theorem window_of_load {s : Sources} {settings : Settings} (h : load s = .ok settings) :
    ∃ entries, s.combined = .ok entries ∧ Window
      (valueAt (.map entries) [.text "index", .text "poll_interval_sec"]) settings.index := by
  obtain ⟨entries, hcombined, haccepted⟩ := accepted_of_load h
  refine ⟨entries, hcombined, ?_⟩
  obtain ⟨logging, index, -, hindex, rfl⟩ := both_eq_accepted.mp haccepted
  rw [valueAt_cons, Key.getAlike?_text]
  rw [checkField_eq_accepted] at hindex
  split at hindex
  · next hnone =>
    rw [hnone, hindex]
    exact @window_of_checkIndexFields [] {} rfl
  · next v hsome =>
    obtain ⟨m, rfl, hfields⟩ := checkSection_eq_accepted.mp hindex
    have hwindow := window_of_checkIndexFields hfields
    rw [hsome, Option.bind_some, valueAt_cons, Key.getAlike?_text]
    simpa using hwindow

/-- **Accepted settings have a positive window, unless the interval is no number**, and the time to
wait is a number unless there are too many retries. -/
theorem window_positive_iff (fields : Entries Key Value) (index : IndexSettings) (s : Sources)
    (settings : Settings) :
    (checkIndexFields fields = .accepted index →
      Window (fields.get? (.text "poll_interval_sec")) index) ∧
    (load s = .ok settings → ∃ entries, s.combined = .ok entries ∧ Window
      (valueAt (.map entries) [.text "index", .text "poll_interval_sec"]) settings.index) :=
  ⟨window_of_checkIndexFields, window_of_load⟩

/-- A quarter of a second, a thousand times, as fields and as an override. -/
theorem window_positive_iff_quarter :
    let fields : Entries Key Value :=
      [(.text "poll_interval_sec", .text " 0.25 "), (.text "max_retries", .text "1_000")]
    let absent : File := ⟨"settings.yaml", none⟩
    let sources : Sources :=
      { home := "/", shared := absent, workspace := absent,
        overrides := [(.text "index", .map fields)] }
    (∃ index, checkIndexFields fields = .accepted index ∧ 0.0 < index.interval ∧
      ∃ t, index.waitTimeout = .ok t ∧ 0.0 < t) ∧
    ∃ settings, load sources = .ok settings ∧ 0.0 < settings.index.interval := by
  intro fields absent sources
  have hnumber : ¬ ∃ v ∈ fields.get? (.text "poll_interval_sec"), IsNan v := by
    rintro ⟨v, hv, hnan⟩
    cases hv
    revert hnan
    simp only [IsNan]
    decide +kernel
  have hchecked : checkIndexFields fields = .accepted ⟨0.25, 1000⟩ := rfl
  have hwindow := (window_positive_iff fields _ sources {}).1 hchecked
  have hcombined : sources.combined = .ok [(.text "index", .map fields)] := by cbv
  have hretries : Decimal.ofInt? 1000 ≠ none := by decide +kernel
  refine ⟨⟨_, hchecked, hwindow.interval.mpr hnumber, hwindow.timeout.mpr ⟨hnumber, hretries⟩⟩, ?_⟩
  have hany : (load sources).toOption.any (fun _ => true) = true := by decide +kernel
  obtain ⟨settings, hload, -⟩ := exists_ok_of_any hany
  obtain ⟨entries, hentries, hloaded⟩ := (window_positive_iff [] {} sources settings).2 hload
  rw [hcombined] at hentries
  cases hentries
  exact ⟨settings, hload, hloaded.interval.mpr hnumber⟩

/-- What is no number is accepted, as a text and in a file; so are retries for which there is no
binary number. -/
theorem window_not_positive :
    let fields : Entries Key Value :=
      [(.text "poll_interval_sec", .text "nan"), (.text "max_retries", .int 2)]
    let sources : Sources :=
      { home := "/", shared := ⟨"settings.yaml", none⟩,
        workspace := ⟨"settings.yaml", some "index:\n  poll_interval_sec: .nan\n"⟩ }
    (∃ index, checkIndexFields fields = .accepted index ∧ ¬ 0.0 < index.interval ∧
      ∃ t, index.waitTimeout = .ok t ∧ ¬ 0.0 < t) ∧
    (∃ settings, load sources = .ok settings ∧ ¬ 0.0 < settings.index.interval) ∧
    ∃ index, index.waitTimeout = .error .tooLarge ∧
      checkIndexFields [(.text "max_retries", .int (10 ^ 200 * 10 ^ 200))] = .accepted index := by
  intro fields sources
  refine ⟨⟨⟨0.0 / 0.0, 2⟩, rfl, ?_, _, rfl, ?_⟩, ?_, ⟨0.1, 10 ^ 200 * 10 ^ 200⟩, ?_, rfl⟩
  · exact Decimal.not_pos_of_isNaN rfl
  · exact Decimal.not_pos_of_isNaN rfl
  · have hany : (load sources).toOption.any (fun settings => settings.index.interval.isNaN) =
        true := by decide +kernel
    obtain ⟨settings, hload, hnan⟩ := exists_ok_of_any hany
    exact ⟨settings, hload, Decimal.not_pos_of_isNaN hnan⟩
  · have hnone : Decimal.ofInt? (10 ^ 200 * 10 ^ 200) = none := by decide +kernel
    simp only [IndexSettings.waitTimeout, hnone]

end PerlSymbols.Settings
