import Mathlib
import PerlSymbols.Decimal.Reading

/-!
# Signs of binary numbers

A product is rounded: the bits that do not fit are dropped. Those of a very small number may all be
dropped, but a factor that is at least one leaves the first bit where it is or moves it up, so that
a positive number stays positive.
-/

namespace PerlSymbols.Decimal

open Float.Model Float.Model.UnpackedFloat

/-! ## Mantissas -/

theorem mantissa_shiftRight (em : ExtendedMantissa) (n : Nat) :
    (em >>> n).mantissa = em.mantissa / 2 ^ n := by
  induction n with
  | zero => simp [HShiftRight.hShiftRight, Nat.repeat]
  | succ n ih =>
    change (em >>> n).mantissa / 2 = _
    rw [ih, Nat.div_div_eq_div_mul, Nat.pow_succ]

theorem mantissa_ofMantissaAndAccuracy (m : Nat) (accuracy : Accuracy) :
    (ExtendedMantissa.ofMantissaAndAccuracy m accuracy).mantissa = m := by
  rcases accuracy with _ | (_ | _ | _) <;> rfl

theorem le_roundedMantissa (em : ExtendedMantissa) : em.mantissa ≤ em.roundedMantissa := by
  obtain ⟨m, roundBit, stickyBit⟩ := em
  cases roundBit <;> cases stickyBit <;>
    simp [ExtendedMantissa.roundedMantissa, ExtendedMantissa.accuracy, Accuracy.roundToNearestEven]

theorem log2_mono {m n : Nat} (h : m ≤ n) : m.log2 ≤ n.log2 := by
  rw [Nat.log2_eq_log_two, Nat.log2_eq_log_two]
  exact Nat.log_mono_right h

theorem log2_add_log2_le {m n : Nat} (hm : 0 < m) (hn : 0 < n) :
    m.log2 + n.log2 ≤ (m * n).log2 := by
  rw [Nat.le_log2 (Nat.mul_pos hm hn).ne', Nat.pow_add]
  exact Nat.mul_le_mul (Nat.log2_self_le hm.ne') (Nat.log2_self_le hn.ne')

theorem log2_div_two_pow (m k : Nat) : (m / 2 ^ k).log2 = m.log2 - k := by
  rw [Nat.log2_eq_log_two, Nat.log2_eq_log_two, Nat.log_div_base_pow]

theorem log2_shiftLeft {m : Nat} (hm : 0 < m) (k : Nat) : (m <<< k).log2 = m.log2 + k := by
  induction k with
  | zero => rfl
  | succ k ih =>
    have hne : m <<< k ≠ 0 := by simp [Nat.shiftLeft_eq, hm.ne']
    rw [Nat.shiftLeft_succ, Nat.log2_two_mul hne, ih]
    rfl

/-! ## Rounding -/

/-- The mantissa and the exponent that a finite number is kept by. -/
structure Fits (m : Nat) (e : Int) : Prop where
  pos : 0 < m
  bits : m.log2 ≤ 52
  low : -1074 ≤ e

/-- A shift leaves the first bit in its place. -/
structure Shifted (m : Nat) (e : Int) (m' : Nat) (e' : Int) : Prop where
  fits : Fits m' e'
  total : totalExponent m' e' = totalExponent m e
  full : 52 ≤ m.log2 → -1021 ≤ totalExponent m e → m'.log2 = 52

theorem shifted_shiftToTargetExponent {m : Nat} {e : Int} (hm : 0 < m)
    (h : -1073 ≤ totalExponent m e) (accuracy : Accuracy) :
    Shifted m e (shiftToTargetExponent .binary64 m e accuracy).1.mantissa
      (shiftToTargetExponent .binary64 m e accuracy).2 := by
  have htarget : Format.binary64.targetExponent (totalExponent m e) =
      max (totalExponent m e - 53) (-1074) := rfl
  unfold shiftToTargetExponent shiftToExponent
  simp only [htarget, mantissa_shiftRight, mantissa_ofMantissaAndAccuracy]
  generalize hk : (max (totalExponent m e - 53) (-1074) - e).toNat = k
  unfold totalExponent at h hk
  have hkm : k ≤ m.log2 := by omega
  have hlog := log2_div_two_pow m k
  have hpos : 0 < m / 2 ^ k :=
    Nat.div_pos ((Nat.le_log2 hm.ne').mp hkm) (Nat.two_pow_pos k)
  refine ⟨⟨hpos, by omega, by omega⟩, ?_, ?_⟩
  · unfold totalExponent
    omega
  · unfold totalExponent
    omega

/-- Rounding moves the first bit up, if at all. -/
theorem roundWithAccuracy_eq_finite {m : Nat} {e : Int} (hm : 0 < m)
    (h : -1073 ≤ totalExponent m e) (s : Sign) (accuracy : Accuracy) :
    ∃ m' e' hpos, roundWithAccuracy .binary64 s m e accuracy = .finite s m' e' hpos ∧
      Fits m' e' ∧ totalExponent m e ≤ totalExponent m' e' ∧
      (52 ≤ m.log2 → -1021 ≤ totalExponent m e → m'.log2 = 52) := by
  have hfirst := shifted_shiftToTargetExponent hm h accuracy
  generalize hr : shiftToTargetExponent .binary64 m e accuracy = first at hfirst
  have hrounded := le_roundedMantissa first.1
  have hlog := log2_mono hrounded
  have htotal : totalExponent m e ≤ totalExponent first.1.roundedMantissa first.2 := by
    rw [← hfirst.total]
    unfold totalExponent
    omega
  have hsecond := shifted_shiftToTargetExponent (hfirst.fits.pos.trans_le hrounded)
    (h.trans htotal) .exact
  refine ⟨_, _, hsecond.fits.pos, ?_, hsecond.fits, ?_, ?_⟩
  · unfold roundWithAccuracy
    simp only [hr]
    rw [dif_neg hsecond.fits.pos.ne']
  · rw [hsecond.total]
    exact htotal
  · intro hfull hnormal
    exact hsecond.full ((hfirst.full hfull hnormal).ge.trans hlog) (hnormal.trans htotal)

/-! ## Numbers as they are kept -/

section Kept

variable (s : Sign) {e : BitVec 11} {m : BitVec 52}

theorem ofBitVec_unpackSign_packComponents :
    Sign.ofBitVec (unpackSign (packComponents .binary64 s e m)) = s := by
  simp only [unpackSign, packComponents, BitVec.extractLsb]
  rw [BitVec.extractLsb'_append_eq_of_le (by omega), BitVec.extractLsb'_append_eq_of_le (by omega)]
  cases s <;> rfl

theorem toNat_hiddenBit_append : (1#1 ++ m).toNat = 2 ^ 52 + m.toNat := by
  rw [BitVec.toNat_append, ← Nat.shiftLeft_add_eq_or_of_lt m.isLt]
  rfl

theorem hiddenBit_append_pos : 0 < (1#1 ++ m).toNat := by
  rw [toNat_hiddenBit_append]
  omega

theorem log2_hiddenBit_append : (1#1 ++ m).toNat.log2 = 52 := by
  have hm := m.isLt
  rw [toNat_hiddenBit_append, Nat.log2_eq_iff (by omega)]
  omega

theorem unpack_normal (hfinite : e ≠ -1#11) (hnormal : e ≠ 0#11) :
    UnpackedFloat.unpack .binary64 (packComponents .binary64 s e m) =
      .finite s (1#1 ++ m).toNat (e.toNat - 1075) hiddenBit_append_pos := by
  simp only [UnpackedFloat.unpack, unpackMantissa_packComponents, unpackExponent_packComponents,
    ofBitVec_unpackSign_packComponents]
  rw [if_neg hfinite, if_neg hnormal]
  rfl

theorem unpack_subnormal (hm : 0 < m.toNat) :
    UnpackedFloat.unpack .binary64 (packComponents .binary64 s 0#11 m) =
      .finite s m.toNat (-1074) hm := by
  have hne : m ≠ 0#52 := by
    rintro rfl
    exact hm.ne' rfl
  simp only [UnpackedFloat.unpack, unpackMantissa_packComponents, unpackExponent_packComponents,
    ofBitVec_unpackSign_packComponents]
  rw [if_neg (by decide), if_pos trivial, dif_neg hne]
  rfl

end Kept

/-- What is kept is finite with the first bit in its place, or too large. -/
theorem unpack_pack_finite {m : Nat} {e : Int} (h : Fits m e) (s : Sign) :
    (Float.Model.pack (.finite s m e h.pos)).unpack = .infinity s ∨
      ∃ m' e' hpos, (Float.Model.pack (.finite s m e h.pos)).unpack = .finite s m' e' hpos ∧
        (m.log2 = 52 → m'.log2 = 52 ∧ e' = e) := by
  obtain ⟨hpos, hbits, hlow⟩ := h
  have hbiased : e + (Format.binary64.exponentBias : Int) +
      (Format.binary64.mantissaBitsWithoutImplicit : Int) = e + 1075 := by
    rw [add_assoc]
    rfl
  unfold Float.Model.pack Float.Model.unpack
  simp only [UnpackedFloat.pack, hbiased]
  split
  · left
    cases s <;> rfl
  · next hrange =>
    right
    replace hrange : (e + 1075).toNat < 2047 := by simpa using hrange
    split
    · next hfull =>
      have hnat : (BitVec.ofNat 11 (e + 1075).toNat).toNat = (e + 1075).toNat := by
        rw [BitVec.toNat_ofNat, Nat.mod_eq_of_lt (by omega)]
      refine ⟨_, _, hiddenBit_append_pos, unpack_normal s ?_ ?_, fun _ => ?_⟩
      · intro hall
        rw [hall] at hnat
        have : (-1#11).toNat = 2047 := rfl
        omega
      · intro hzero
        rw [hzero] at hnat
        have : (0#11).toNat = 0 := rfl
        omega
      · exact ⟨log2_hiddenBit_append, by omega⟩
    · next hfull =>
      have hfull : m.log2 ≠ 52 := fun he => hfull (by rw [he]; rfl)
      have hlt : m < 2 ^ 52 := (Nat.log2_lt hpos.ne').mp (by omega)
      have hkept : 0 < (BitVec.ofNat 52 m).toNat := by
        rw [BitVec.toNat_ofNat, Nat.mod_eq_of_lt hlt]
        exact hpos
      exact ⟨_, _, hkept, unpack_subnormal s hkept, fun he => absurd he hfull⟩

/-- A number that is kept is no smaller than the smallest one. -/
theorem low_of_unpack {x : Float.Model} {s : Sign} {m : Nat} {e : Int} {hpos : 0 < m}
    (h : x.unpack = .finite s m e hpos) : -1074 ≤ e := by
  have hbias : (Format.binary64.exponentBias : Int) +
      (Format.binary64.mantissaBitsWithoutImplicit : Int) = 1075 := rfl
  unfold Float.Model.unpack UnpackedFloat.unpack at h
  simp only [hbias] at h
  split at h
  · split at h <;> cases h
  · split at h
    · split at h
      · cases h
      · cases h
        omega
    · next hnormal =>
      cases h
      have hne : (@unpackExponent .binary64 x.toBits.toBitVec).toNat ≠ 0 :=
        fun hz => hnormal (BitVec.eq_of_toNat_eq hz)
      omega

/-! ## Positive numbers -/

inductive IsPositive : UnpackedFloat → Prop where
  | infinite : IsPositive (.infinity .positive)
  | finite {m : Nat} {e : Int} {hm : 0 < m} : IsPositive (.finite .positive m e hm)

/-- At least one. -/
inductive IsLarge : UnpackedFloat → Prop where
  | infinite : IsLarge (.infinity .positive)
  | finite {m : Nat} {e : Int} {hm : 0 < m} (full : m.log2 = 52) (total : 1 ≤ totalExponent m e) :
    IsLarge (.finite .positive m e hm)

theorem pos_iff (x : Float) : 0.0 < x ↔ IsPositive x.toModel.unpack := by
  have hmodel : 0.0 < x ↔ (UnpackedFloat.zero .positive).lt x.toModel.unpack = true := by
    show decide ((0.0 : Float).toModel < x.toModel) = true ↔ _
    rw [decide_eq_true_eq]
    rfl
  rw [hmodel]
  generalize x.toModel.unpack = f
  constructor
  · intro h
    rcases f with (_ | _) | _ | _ | ⟨(_ | _), m, e, hm⟩
    case infinity.positive => exact .infinite
    case finite.positive => exact .finite
    all_goals exact absurd h Bool.false_ne_true
  · intro h
    cases h <;> rfl

theorem isNaN_iff (x : Float) : x.isNaN = true ↔ x.toModel.unpack = .notANumber := by
  have hmodel : x.isNaN = x.toModel.unpack.isNaN := rfl
  rw [hmodel]
  cases x.toModel.unpack <;> simp [UnpackedFloat.isNaN]

theorem not_pos_of_isNaN {x : Float} (h : x.isNaN = true) : ¬ 0.0 < x := by
  rw [pos_iff, (isNaN_iff x).mp h]
  exact nofun

/-- What is not zero or less is positive or no number. -/
theorem not_le_zero_iff (x : Float) : ¬ x ≤ 0.0 ↔ 0.0 < x ∨ x.isNaN = true := by
  have hmodel : x ≤ 0.0 ↔ x.toModel.unpack.le (.zero .positive) = true := by
    show decide (x.toModel ≤ (0.0 : Float).toModel) = true ↔ _
    rw [decide_eq_true_eq]
    rfl
  rw [hmodel, pos_iff, isNaN_iff]
  generalize x.toModel.unpack = f
  constructor
  · intro h
    rcases f with (_ | _) | _ | _ | ⟨(_ | _), m, e, hm⟩
    case infinity.positive => exact .inl .infinite
    case finite.positive => exact .inl .finite
    case notANumber => exact .inr rfl
    all_goals exact absurd rfl h
  · rintro (h | rfl)
    · cases h <;> exact Bool.false_ne_true
    · exact Bool.false_ne_true

theorem isPositive_round {m : Nat} {e : Int} (hm : 0 < m) (h : -1073 ≤ totalExponent m e)
    (accuracy : Accuracy) :
    IsPositive (Float.Model.pack (roundWithAccuracy .binary64 .positive m e accuracy)).unpack := by
  obtain ⟨m', e', _, hround, hfits, -, -⟩ := roundWithAccuracy_eq_finite hm h .positive accuracy
  rw [hround]
  obtain hkept | ⟨_, _, _, hkept, -⟩ := unpack_pack_finite hfits .positive
  · rw [hkept]
    exact .infinite
  · rw [hkept]
    exact .finite

theorem isLarge_round {m : Nat} {e : Int} (hm : 0 < m) (hfull : 52 ≤ m.log2)
    (h : 1 ≤ totalExponent m e) (accuracy : Accuracy) :
    IsLarge (Float.Model.pack (roundWithAccuracy .binary64 .positive m e accuracy)).unpack := by
  have hlow : -1073 ≤ totalExponent m e := by omega
  obtain ⟨m', e', _, hround, hfits, htotal, hfull'⟩ :=
    roundWithAccuracy_eq_finite hm hlow .positive accuracy
  replace hfull' := hfull' hfull (by omega)
  rw [hround]
  obtain hkept | ⟨m'', e'', _, hkept, hsame⟩ := unpack_pack_finite hfits .positive
  · rw [hkept]
    exact .infinite
  · obtain ⟨hlog, rfl⟩ := hsame hfull'
    rw [hkept]
    refine .finite hlog ?_
    unfold totalExponent at htotal h ⊢
    omega

theorem toModel_mul (x y : Float) :
    (x * y).toModel = .pack (.mul .binary64 x.toModel.unpack y.toModel.unpack) := rfl

/-- **A positive number times a large one is positive.** -/
theorem mul_pos_of_isLarge {x y : Float} (hx : 0.0 < x) (hy : IsLarge y.toModel.unpack) :
    0.0 < x * y := by
  rw [pos_iff] at hx ⊢
  rw [toModel_mul]
  have hlow := @low_of_unpack x.toModel
  generalize x.toModel.unpack = f at hx hlow
  generalize y.toModel.unpack = g at hy
  have hinfinite : IsPositive (Float.Model.pack (.infinity .positive)).unpack := .infinite
  cases hx with
  | infinite => cases hy <;> exact hinfinite
  | @finite m e hm =>
    cases hy with
    | infinite => exact hinfinite
    | @finite m' e' hm' full total =>
      have hlog := log2_add_log2_le hm hm'
      have he := hlow rfl
      apply isPositive_round (Nat.mul_pos hm hm')
      unfold totalExponent at total ⊢
      omega

theorem isLarge_mul {x y : Float} (hx : IsLarge x.toModel.unpack) (hy : IsLarge y.toModel.unpack) :
    IsLarge (x * y).toModel.unpack := by
  rw [toModel_mul]
  generalize x.toModel.unpack = f at hx
  generalize y.toModel.unpack = g at hy
  have hinfinite : IsLarge (Float.Model.pack (.infinity .positive)).unpack := .infinite
  cases hx with
  | infinite => cases hy <;> exact hinfinite
  | @finite m e hm full total =>
    cases hy with
    | infinite => exact hinfinite
    | @finite m' e' hm' full' total' =>
      have hlog := log2_add_log2_le hm hm'
      apply isLarge_round (Nat.mul_pos hm hm') (by omega)
      unfold totalExponent at total total' ⊢
      omega

/-! ## Whole numbers -/

theorem isLarge_round_whole {n : Nat} (hn : 0 < n) :
    IsLarge (Float.Model.pack (UnpackedFloat.round .binary64 .positive n 0)).unpack := by
  have htarget : Format.binary64.targetExponent (totalExponent n 0) =
      max (totalExponent n 0 - 53) (-1074) := rfl
  simp only [UnpackedFloat.round, decreaseExponent, htarget]
  generalize hk : (0 - max (totalExponent n 0 - 53) (-1074)).toNat = k
  have hlog := log2_shiftLeft hn k
  unfold totalExponent at hk
  apply isLarge_round
  · rw [Nat.shiftLeft_eq]
    exact Nat.mul_pos hn (Nat.two_pow_pos k)
  · omega
  · unfold totalExponent
    omega

theorem isLarge_toFloat {n : Nat} (hn : 0 < n) (hsize : n < 2 ^ 53) :
    IsLarge n.toUInt64.toFloat.toModel.unpack := by
  have hnat : n.toUInt64.toNat = n := by
    simp only [Nat.toUInt64, UInt64.toNat_ofNat']
    omega
  have hmodel : n.toUInt64.toFloat.toModel = Float.Model.pack
      (UnpackedFloat.normalize .binary64 (n.toUInt64.toNat : Int) 0 .positive) := rfl
  have hgt : compare (n : Int) 0 = .gt := Int.compare_eq_gt.mpr (by omega)
  rw [hmodel, hnat]
  unfold UnpackedFloat.normalize
  rw [hgt]
  exact isLarge_round_whole hn

theorem isLarge_ofScientific {n : Nat} (hn : 0 < n) :
    IsLarge (Float.ofScientific n false 0).toModel.unpack := by
  unfold Float.ofScientific
  split
  · next hsmall =>
    have hone : IsLarge Float.exactlyRepresentablePowersOfTen[0].toModel.unpack :=
      .finite (by decide) (by decide)
    exact isLarge_mul (isLarge_toFloat hn hsmall.1) hone
  · have hlog := log2_shiftLeft hn 53
    have hmodel : UnpackedFloat.ofScientific .binary64 n 0 =
        roundWithAccuracy .binary64 .positive (n <<< 53 * 10 ^ 0) (-53 + 0) .exact := by
      unfold UnpackedFloat.ofScientific
      rw [dif_neg hn.ne', if_neg (by decide), if_neg (by simp), if_pos (by simp)]
      rfl
    show IsLarge (Float.Model.pack (UnpackedFloat.ofScientific .binary64 n 0)).unpack
    rw [hmodel, pow_zero, mul_one]
    apply isLarge_round
    · rw [Nat.shiftLeft_eq]
      exact Nat.mul_pos hn (Nat.two_pow_pos 53)
    · omega
    · unfold totalExponent
      omega

theorem isLarge_nearest {n : Nat} (hn : 0 < n) : IsLarge (nearest false n 0).toModel.unpack := by
  have hzero : (n == 0 || decide (((Nat.toDigits 10 n).length : Int) + 0 < -400)) = false := by
    simp only [Bool.or_eq_false_iff, beq_eq_false_iff_ne, decide_eq_false_iff_not]
    omega
  simp only [nearest, hzero, Bool.false_eq_true, if_false]
  split
  · exact .infinite
  · exact isLarge_ofScientific hn

/-- A whole number that is positive is at least one. -/
theorem isLarge_of_ofInt? {n : Int} (hn : 1 ≤ n) {y : Float} (h : ofInt? n = some y) :
    IsLarge y.toModel.unpack := by
  have hsign : decide (n < 0) = false := decide_eq_false (by omega)
  simp only [ofInt?, hsign] at h
  split at h
  · cases h
  · cases h
    exact isLarge_nearest (by omega)

/-! ## What is no number -/

theorem isNaN_unpack_packComponents (s : Sign) {e : BitVec 11} (he : e ≠ -1#11) (m : BitVec 52) :
    (UnpackedFloat.unpack .binary64 (packComponents .binary64 s e m)).isNaN = false := by
  simp only [UnpackedFloat.unpack, unpackExponent_packComponents, if_neg he]
  repeat' split
  all_goals rfl

theorem isNaN_unpack_pack (f : UnpackedFloat) : (Float.Model.pack f).unpack.isNaN = f.isNaN := by
  cases f with
  | notANumber => rfl
  | infinity s => cases s <;> rfl
  | zero s => cases s <;> rfl
  | finite s m e hm =>
    unfold Float.Model.pack Float.Model.unpack
    simp only [UnpackedFloat.pack]
    split
    · cases s <;> rfl
    · next hrange =>
      split
      · refine isNaN_unpack_packComponents s (fun hall => hrange ?_) _
        have hnat : _ % 2 ^ 11 = 2047 := congrArg BitVec.toNat hall
        show 2 ^ 11 ≤ _
        omega
      · exact isNaN_unpack_packComponents s (by decide) _

theorem isNaN_roundWithAccuracy (s : Sign) (m : Nat) (e : Int) (accuracy : Accuracy) :
    (roundWithAccuracy .binary64 s m e accuracy).isNaN = false := by
  unfold roundWithAccuracy
  dsimp only
  split <;> rfl

/-- A product or a quotient with a finite number is a number if the other one is. -/
theorem isNaN_mul_finite (f : UnpackedFloat) (s : Sign) (m : Nat) (e : Int) (hm : 0 < m) :
    (UnpackedFloat.mul .binary64 f (.finite s m e hm)).isNaN = f.isNaN := by
  cases f with
  | finite => exact isNaN_roundWithAccuracy _ _ _ _
  | notANumber | infinity | zero => rfl

theorem isNaN_div_finite (f : UnpackedFloat) (s : Sign) (m : Nat) (e : Int) (hm : 0 < m) :
    (UnpackedFloat.div .binary64 f (.finite s m e hm)).isNaN = f.isNaN := by
  cases f with
  | finite => exact isNaN_roundWithAccuracy _ _ _ _
  | notANumber | infinity | zero => rfl

theorem isNaN_ofScientific_model (m : Nat) (e : Int) :
    (UnpackedFloat.ofScientific .binary64 m e).isNaN = false := by
  unfold UnpackedFloat.ofScientific
  repeat' split
  · rfl
  · rfl
  · rfl
  · exact isNaN_mul_finite _ _ _ _ _
  · exact isNaN_div_finite _ _ _ _ _

theorem isNaN_toFloat (n : UInt64) : n.toFloat.isNaN = false := by
  show (Float.Model.pack
    (UnpackedFloat.normalize .binary64 (n.toNat : Int) 0 .positive)).unpack.isNaN = false
  rw [isNaN_unpack_pack]
  unfold UnpackedFloat.normalize UnpackedFloat.round
  dsimp only
  split
  · exact isNaN_roundWithAccuracy _ _ _ _
  · rfl
  · exact isNaN_roundWithAccuracy _ _ _ _

theorem finite_powerOfTen (i : Nat) (h : i < Float.exactlyRepresentablePowersOfTen.size) :
    ∃ s m e hm, Float.exactlyRepresentablePowersOfTen[i].toModel.unpack = .finite s m e hm := by
  have hall : ∀ x ∈ Float.exactlyRepresentablePowersOfTen,
      ∃ s m e hm, x.toModel.unpack = .finite s m e hm := by
    simp only [Float.exactlyRepresentablePowersOfTen, List.mem_toArray, List.forall_mem_cons,
      List.not_mem_nil, false_implies, implies_true, and_true]
    repeat' apply And.intro
    all_goals exact ⟨_, _, _, _, rfl⟩
  exact hall _ (Array.getElem_mem h)

theorem isNaN_ofScientific (m : Nat) (negative : Bool) (e : Nat) :
    (Float.ofScientific m negative e).isNaN = false := by
  unfold Float.ofScientific
  split
  · next hsmall =>
    have hindex : e < Float.exactlyRepresentablePowersOfTen.size := by
      simp only [Float.exactlyRepresentablePowersOfTen, List.size_toArray, List.length_cons,
        List.length_nil]
      omega
    obtain ⟨s, m', e', hm, hpower⟩ := finite_powerOfTen e hindex
    dsimp only
    split
    · show (Float.Model.pack (UnpackedFloat.div _ _ _)).unpack.isNaN = false
      rw [isNaN_unpack_pack, hpower, isNaN_div_finite]
      exact isNaN_toFloat _
    · show (Float.Model.pack (UnpackedFloat.mul _ _ _)).unpack.isNaN = false
      rw [isNaN_unpack_pack, hpower, isNaN_mul_finite]
      exact isNaN_toFloat _
  · show (Float.Model.pack (UnpackedFloat.ofScientific _ _ _)).unpack.isNaN = false
    rw [isNaN_unpack_pack, isNaN_ofScientific_model]

theorem isNaN_neg (x : Float) : (-x).isNaN = x.isNaN := by
  show (Float.Model.pack x.toModel.unpack.neg).unpack.isNaN = x.toModel.unpack.isNaN
  rw [isNaN_unpack_pack]
  cases x.toModel.unpack <;> rfl

theorem isNaN_mul_left {x : Float} (h : x.isNaN = true) (y : Float) : (x * y).isNaN = true := by
  rw [isNaN_iff] at h ⊢
  rw [toModel_mul, h, UnpackedFloat.mul]
  rfl

/-- **What is read from digits is a number.** -/
theorem isNaN_nearest (negative : Bool) (digits : Nat) (power : Int) :
    (nearest negative digits power).isNaN = false := by
  unfold nearest
  extract_lets size x
  have hx : x.isNaN = false := by
    dsimp only [x]
    split
    · rfl
    · split
      · rfl
      · exact isNaN_ofScientific _ _ _
  split
  · rw [isNaN_neg, hx]
  · exact hx

theorem isNaN_of_ofInt? {n : Int} {x : Float} (h : ofInt? n = some x) : x.isNaN = false := by
  simp only [ofInt?] at h
  split at h
  · cases h
  · cases h
    exact isNaN_nearest _ _ _

end PerlSymbols.Decimal
