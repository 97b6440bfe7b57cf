import PerlSymbols.Clock
import Mathlib.Data.Prod.Lex

/-!
# Instants

Deadlines are sums, and sums of seconds are binary numbers. Those that are numbers stand in one
line, by sign, exponent and mantissa; what is no number stands nowhere.
-/

namespace PerlSymbols

open Float.Model

/-! ## Binary numbers in a line -/

/-- Where a number stands. The two zeros stand in one place. -/
def place? : UnpackedFloat → Option (Int ×ₗ Int ×ₗ Int)
  | .notANumber => none
  | .infinity .negative => some (toLex (-2, toLex (0, 0)))
  | .finite .negative mantissa exponent _ => some (toLex (-1, toLex (-exponent, -mantissa)))
  | .zero _ => some (toLex (0, toLex (0, 0)))
  | .finite .positive mantissa exponent _ => some (toLex (1, toLex (exponent, mantissa)))
  | .infinity .positive => some (toLex (2, toLex (0, 0)))

theorem isLE_then {e₁ e₂ : Int} {m₁ m₂ : Nat} :
    ((compare e₁ e₂).then (compare m₁ m₂)).isLE = true ↔ e₁ < e₂ ∨ e₁ = e₂ ∧ m₁ ≤ m₂ := by
  rw [Ordering.isLE_then_iff_or]
  simp [compare_lt_iff_lt, Nat.isLE_compare]

theorem isGE_then {e₁ e₂ : Int} {m₁ m₂ : Nat} :
    ((compare e₁ e₂).then (compare m₁ m₂)).isGE = true ↔ e₂ < e₁ ∨ e₁ = e₂ ∧ m₂ ≤ m₁ := by
  rw [← Ordering.isLE_swap, Ordering.swap_then, ← Std.OrientedCmp.eq_swap,
    ← Std.OrientedCmp.eq_swap, isLE_then, eq_comm]

theorem unpacked_le_iff (x y : UnpackedFloat) :
    x.le y = true ↔ ∃ a b, place? x = some a ∧ place? y = some b ∧ a ≤ b := by
  rcases x with (_ | _) | _ | _ | ⟨(_ | _), m₁, e₁, _⟩ <;>
    rcases y with (_ | _) | _ | _ | ⟨(_ | _), m₂, e₂, _⟩ <;>
      dsimp only [UnpackedFloat.le, UnpackedFloat.compare, place?]
  all_goals simp [Prod.Lex.toLex_le_toLex, isLE_then, isGE_then]
  -- Two infinities remain, each pair of signs.
  all_goals rfl

theorem float_le_iff (x y : Float) :
    x ≤ y ↔ ∃ a b, place? x.toModel.unpack = some a ∧ place? y.toModel.unpack = some b ∧ a ≤ b := by
  have hmodel : x ≤ y ↔ x.toModel.unpack.le y.toModel.unpack = true := by
    show decide (x.toModel ≤ y.toModel) = true ↔ _
    rw [decide_eq_true_eq]
    rfl
  rw [hmodel, unpacked_le_iff]

theorem float_le_self {x y : Float} (h : x ≤ y) : y ≤ y := by
  obtain ⟨_, b, -, hb, -⟩ := (float_le_iff x y).mp h
  exact (float_le_iff y y).mpr ⟨b, b, hb, hb, le_refl b⟩

theorem float_le_trans {x y z : Float} (hxy : x ≤ y) (hyz : y ≤ z) : x ≤ z := by
  obtain ⟨a, b, ha, hb, hab⟩ := (float_le_iff x y).mp hxy
  obtain ⟨b', c, hb', hc, hbc⟩ := (float_le_iff y z).mp hyz
  obtain rfl : b = b' := Option.some.inj (hb.symm.trans hb')
  exact (float_le_iff x z).mpr ⟨a, c, ha, hc, hab.trans hbc⟩

theorem float_le_total {x y : Float} (hx : x ≤ x) (hy : y ≤ y) : x ≤ y ∨ y ≤ x := by
  obtain ⟨a, -, ha, -, -⟩ := (float_le_iff x x).mp hx
  obtain ⟨b, -, hb, -, -⟩ := (float_le_iff y y).mp hy
  rcases le_total a b with h | h
  · exact Or.inl ((float_le_iff x y).mpr ⟨a, b, ha, hb, h⟩)
  · exact Or.inr ((float_le_iff y x).mpr ⟨b, a, hb, ha, h⟩)

/-! ## Clocks -/

namespace Clock

variable {τ : Type} [Clock τ]

/-- An instant that comes after some other one comes after itself; one that is no number does
neither. -/
def Orders (τ : Type) [Clock τ] : Prop :=
  ∀ a b : τ, Clock.le a b = true → Clock.le b b = true

def IsSum (a : τ) : Prop :=
  ∃ b c, a = Clock.add b c

/-- Sums stand in one line. Other instants need not: whole and binary numbers are compared in
different ways. -/
structure Lines (τ : Type) [Clock τ] : Prop where
  orders : Orders τ
  trans : ∀ {a b c : τ}, IsSum a → IsSum b → IsSum c → Clock.le a b = true → Clock.le b c = true →
    Clock.le a c = true
  total : ∀ {a b : τ}, IsSum a → IsSum b → Clock.le a a = true → Clock.le b b = true →
    Clock.le a b = true ∨ Clock.le b a = true

/-- No clock tells two such instants apart. -/
def Same (a b : τ) : Prop :=
  a = b ∨ Clock.le a b = true ∧ Clock.le b a = true

theorem same_refl (a : τ) : Same a a :=
  Or.inl rfl

end Clock

namespace Seconds

theorem orders : Clock.Orders Seconds := by
  intro a b h
  show Seconds.le b b = true
  replace h : Seconds.le a b = true := h
  cases b with
  | whole n => simp [le]
  | real y =>
    cases a with
    | whole m | real x =>
      simp only [le, decide_eq_true_eq] at h ⊢
      exact float_le_self h

theorem lines : Clock.Lines Seconds where
  orders := orders
  trans := by
    rintro _ _ _ ⟨_, _, rfl⟩ ⟨_, _, rfl⟩ ⟨_, _, rfl⟩ hab hbc
    exact decide_eq_true (float_le_trans (of_decide_eq_true hab) (of_decide_eq_true hbc))
  total := by
    rintro _ _ ⟨_, _, rfl⟩ ⟨_, _, rfl⟩ ha hb
    have htotal := float_le_total (of_decide_eq_true ha) (of_decide_eq_true hb)
    exact htotal.imp (fun h => decide_eq_true h) fun h => decide_eq_true h

end Seconds

end PerlSymbols
