import PerlSymbols.Proofs.Settings.Failures

/-!
# Accepted settings

What is known about settings that were accepted: how each of them came about, and which rules they
keep.
-/

namespace PerlSymbols.Settings

namespace Checked

variable {α β γ : Type}

@[simp]
theorem refuse_ne_accepted (fault : Fault) (input : Value) (a : α) :
    (refuse fault input : Checked α) ≠ .accepted a := by
  simp [refuse]

@[simp]
theorem both_eq_accepted {f : α → β → γ} {x : Checked α} {y : Checked β} {c : γ} :
    x.both f y = .accepted c ↔ ∃ a b, x = .accepted a ∧ y = .accepted b ∧ f a b = c := by
  cases x <;> cases y <;> simp [Checked.both]

@[simp]
theorem under_eq_accepted {x : Checked α} {name : String} {a : α} :
    x.under name = .accepted a ↔ x = .accepted a := by
  cases x <;> simp [Checked.under]

@[simp]
theorem map_eq_accepted {f : α → β} {x : Checked α} {b : β} :
    x.map f = .accepted b ↔ ∃ a, x = .accepted a ∧ f a = b := by
  cases x <;> simp [Checked.map]

theorem require_eq_accepted {input : Value} {x : Checked α} {complaint? : α → Option String}
    {a : α} :
    x.require input complaint? = .accepted a ↔ x = .accepted a ∧ complaint? a = none := by
  cases x with
  | accepted b =>
    rw [Checked.require]
    cases hb : complaint? b with
    | none =>
      simp only [accepted.injEq]
      exact ⟨fun h => ⟨h, h ▸ hb⟩, And.left⟩
    | some text =>
      simp only [refuse_ne_accepted, accepted.injEq, false_iff, not_and]
      rintro rfl
      simp [hb]
  | refused | homeless => simp [Checked.require]

end Checked

open Checked

theorem checkField_eq_accepted {α : Type} {entries : Entries Key Value} {name : String}
    {default a : α} {check : Value → Checked α} :
    checkField entries name default check = .accepted a ↔
      match entries.get? (.text name) with
      | none => a = default
      | some v => check v = .accepted a := by
  unfold checkField
  cases entries.get? (.text name) with
  | none => simp [eq_comm]
  | some v => simp

/-- What holds of the default and of every accepted value holds of the field. -/
theorem checkField_keeps {α : Type} {P : α → Prop} {entries : Entries Key Value} {name : String}
    {default a : α} {check : Value → Checked α} (hdefault : P default)
    (hcheck : ∀ v a, check v = .accepted a → P a)
    (h : checkField entries name default check = .accepted a) : P a := by
  rw [checkField_eq_accepted] at h
  split at h
  · exact h ▸ hdefault
  · exact hcheck _ a h

theorem checkSection_eq_accepted {α : Type} {name : String} {check : Entries Key Value → Checked α}
    {v : Value} {a : α} :
    checkSection name check v = .accepted a ↔ ∃ m, v = .map m ∧ check m = .accepted a := by
  cases v <;> simp [checkSection]

theorem checkInterval_eq_accepted {v : Value} {x : Float} :
    checkInterval v = .accepted x ↔ checkNumber v = .accepted x ∧ ¬ x ≤ 0.0 := by
  rw [checkInterval, require_eq_accepted]
  simp

theorem checkRetries_eq_accepted {v : Value} {n : Int} :
    checkRetries v = .accepted n ↔ checkWhole v = .accepted n ∧ 1 ≤ n := by
  rw [checkRetries, require_eq_accepted]
  simp

/-- Intervals are refused only if they are zero or less, and retries if there are none. -/
theorem checkIndexFields_keeps {entries : Entries Key Value} {index : IndexSettings}
    (h : checkIndexFields entries = .accepted index) :
    ¬ index.interval ≤ 0.0 ∧ 1 ≤ index.retries := by
  obtain ⟨interval, retries, hinterval, hretries, rfl⟩ := both_eq_accepted.mp h
  constructor
  · exact checkField_keeps (P := fun x => ¬ x ≤ 0.0) (by decide +kernel)
      (fun v x hx => (checkInterval_eq_accepted.mp hx).2) hinterval
  · exact checkField_keeps (P := fun n => 1 ≤ n) (by decide)
      (fun v n hn => (checkRetries_eq_accepted.mp hn).2) hretries

theorem checkAll_of_checkStrictly {homes : Homes} {entries : Entries Key Value}
    {settings : Settings} (h : checkStrictly homes entries = .accepted settings) :
    checkAll homes entries = .accepted settings := by
  obtain ⟨a, -, ha, -, rfl⟩ := both_eq_accepted.mp h
  exact ha

theorem exists_ok_of_any {ε α : Type} {x : Except ε α} {p : α → Bool}
    (h : x.toOption.any p = true) : ∃ a, x = .ok a ∧ p a = true := by
  cases x with
  | ok a => exact ⟨a, rfl, h⟩
  | error e => cases h

/-- Settings that are loaded were accepted. -/
theorem accepted_of_load {s : Sources} {yaml : String → Except Yaml.Failure Value}
    {settings : Settings} (h : load s yaml = .ok settings) :
    ∃ entries, s.combined yaml = .ok entries ∧ checkAll s.home entries = .accepted settings := by
  obtain ⟨entries, hcombined, h⟩ := bind_eq_ok.mp h
  refine ⟨entries, hcombined, ?_⟩
  by_cases htext : entries.all (isTextKey ·.1) = true
  · simp only [htext, Bool.not_true, Bool.false_eq_true, if_false] at h
    split at h
    · next hchecked =>
      cases h
      exact checkAll_of_checkStrictly hchecked
    all_goals cases h
  · rw [Bool.not_eq_true] at htext
    rw [htext] at h
    cases h

end PerlSymbols.Settings
