import PerlSymbols.Proofs.Results
import PerlSymbols.Proofs.Settings.Merging
import PerlSymbols.Settings.Load

/-!
# What the sources give

No source names a section twice, and no section names a field twice. Files are read so that the
last value of a repeated key counts; the environment and the overrides are gathered by name.
-/

namespace PerlSymbols

open Entries

/-- If the value is a map, no text stands in it as a key twice. -/
def Value.Clear (v : Value) : Prop :=
  ∀ m, v = .map m → ∀ name, Once (.text name) m

/-! ## Files -/

theorem once_putAlike {name : String} {m : Entries Key Value} (h : Once (.text name) m) (k : Key)
    (v : Value) : Once (.text name) (Key.putAlike m k v) :=
  Key.single_text.mp ((Key.single_text.mpr h).putAlike k v)

theorem mem_putAlike {m : Entries Key Value} {k : Key} {v : Value} {entry : Key × Value}
    (h : entry ∈ Key.putAlike m k v) : entry ∈ m ∨ entry.2 = v := by
  induction m with
  | nil =>
    simp only [Key.putAlike, List.mem_singleton] at h
    exact Or.inr (h ▸ rfl)
  | cons first rest ih =>
    obtain ⟨j, a⟩ := first
    simp only [Key.putAlike] at h
    split at h
    · rcases List.mem_cons.mp h with rfl | h
      · exact Or.inr rfl
      · exact Or.inl (List.mem_cons_of_mem _ h)
    · rcases List.mem_cons.mp h with rfl | h
      · exact Or.inl List.mem_cons_self
      · exact (ih h).imp_left (List.mem_cons_of_mem _)

section Reading

open Yaml

variable {α β γ : Type}

theorem Yaml.Reading.both_eq_ok {f : α → β → γ} {x : Reading α} {y : Reading β} {c : γ} :
    both f x y = .ok c ↔ ∃ a b, x = .ok a ∧ y = .ok b ∧ f a b = c := by
  cases x <;> cases y <;> simp [both]

theorem Yaml.Reading.below_eq_ok {x : Reading α} {a : α} : below x = .ok a ↔ x = .ok a :=
  mapError_eq_ok

end Reading

namespace Yaml.Node

theorem collect_clear (pairs : List (Key × Value)) : (collect pairs).Clear := by
  rintro m hm name
  cases hm
  exact List.foldlRecOn pairs _ (once_nil _) fun m h entry _ => once_putAlike h entry.1 entry.2

theorem mem_collect {pairs : List (Key × Value)} {m : Entries Key Value}
    (hm : collect pairs = .map m) {entry : Key × Value} (h : entry ∈ m) :
    ∃ pair ∈ pairs, pair.2 = entry.2 := by
  cases hm
  -- Each entry of the map so far came from some pair.
  refine List.foldlRecOn (motive := fun m => entry ∈ m → ∃ pair ∈ pairs, pair.2 = entry.2)
    pairs _ (by simp) (fun m ih pair hpair h => ?_) h
  rcases mem_putAlike h with h | he
  · exact ih h
  · exact ⟨pair, hpair, he.symm⟩

theorem scalarValue_ne_map {meaning : Meaning} {text : String} {m : Entries Key Value} :
    scalarValue meaning text ≠ .ok (.map m) := by
  intro h
  cases meaning <;> simp [scalarValue, bind, Except.bind, pure, Except.pure] at h
  all_goals (split at h <;> cases h)

/-- Only the node of a map has a map as its value. -/
theorem toValue_map {node : Node} {m : Entries Key Value} (h : node.toValue = .ok (.map m)) :
    ∃ tag entries merged own, node = .map tag entries ∧ (toPairs entries).1 = .ok merged ∧
      (toPairs entries).2 = .ok own ∧ collect (merged ++ own) = .map m := by
  cases node with
  | scalar tag text plain =>
    simp only [toValue] at h
    split at h
    · exact absurd (mapError_eq_ok.mp h) scalarValue_ne_map
    · cases h
  | list tag items =>
    simp only [toValue] at h
    split at h
    · cases h
    · rw [Reading.below_eq_ok] at h
      cases hitems : toValues items with
      | ok vs => simp [hitems, Except.map] at h
      | error e => simp [hitems, Except.map] at h
  | map tag entries =>
    simp only [toValue] at h
    split at h
    · cases h
    · split at h
      · obtain ⟨merged, own, hmerged, hown, hm⟩ := Reading.both_eq_ok.mp (Reading.below_eq_ok.mp h)
        exact ⟨tag, entries, merged, own, rfl, hmerged, hown, hm⟩
      · cases h
  | enclosing => cases h

theorem toValue_clear {node : Node} {v : Value} (h : node.toValue = .ok v) : v.Clear := by
  rintro m rfl
  obtain ⟨_, _, _, _, -, -, -, hm⟩ := toValue_map h
  exact collect_clear _ m hm

theorem clear_append {first second : List (Key × Value)} (h₁ : ∀ pair ∈ first, pair.2.Clear)
    (h₂ : ∀ pair ∈ second, pair.2.Clear) : ∀ pair ∈ first ++ second, pair.2.Clear :=
  fun pair hp => (List.mem_append.mp hp).elim (h₁ pair) (h₂ pair)

mutual

/-- The maps among the entries that are merged in and among the own ones are clear. -/
theorem toPairs_clear (entries : List (Node × Node)) :
    (∀ merged, (toPairs entries).1 = .ok merged → ∀ pair ∈ merged, pair.2.Clear) ∧
      ∀ own, (toPairs entries).2 = .ok own → ∀ pair ∈ own, pair.2.Clear := by
  match entries with
  | [] => simp [toPairs]
  | (k, v) :: rest =>
    obtain ⟨hmerged, hown⟩ := toPairs_clear rest
    simp only [toPairs]
    split
    · refine ⟨fun merged h => ?_, hown⟩
      obtain ⟨first, others, hfirst, hothers, rfl⟩ := Reading.both_eq_ok.mp h
      exact clear_append (mergedFrom_clear v hfirst) (hmerged others hothers)
    · refine ⟨hmerged, fun own h => ?_⟩
      obtain ⟨pair, others, hpair, hothers, rfl⟩ := Reading.both_eq_ok.mp h
      obtain ⟨_, value, -, hvalue, rfl⟩ := Reading.both_eq_ok.mp hpair
      exact List.forall_mem_cons.mpr ⟨toValue_clear hvalue, hown others hothers⟩

theorem mergedFrom_clear (node : Node) {pairs : List (Key × Value)}
    (h : mergedFrom node = .ok pairs) : ∀ pair ∈ pairs, pair.2.Clear := by
  match node with
  | .scalar .. | .enclosing => simp [mergedFrom] at h
  | .list _ items =>
    rw [mergedFrom] at h
    exact mergedFromItems_clear items h
  | .map _ entries =>
    rw [mergedFrom] at h
    obtain ⟨merged, own, hmerged, hown, rfl⟩ := Reading.both_eq_ok.mp h
    obtain ⟨hmergedClear, hownClear⟩ := toPairs_clear entries
    exact clear_append (hmergedClear merged hmerged) (hownClear own hown)

theorem mergedFromItems_clear (items : List Node) {pairs : List (Key × Value)}
    (h : mergedFromItems items = .ok pairs) : ∀ pair ∈ pairs, pair.2.Clear := by
  match items with
  | [] =>
    simp only [mergedFromItems, Except.ok.injEq] at h
    subst h
    simp
  | .map _ entries :: rest =>
    rw [mergedFromItems] at h
    obtain ⟨others, first, hothers, hfirst, rfl⟩ := Reading.both_eq_ok.mp h
    obtain ⟨merged, own, hmerged, hown, rfl⟩ := Reading.both_eq_ok.mp hfirst
    obtain ⟨hmergedClear, hownClear⟩ := toPairs_clear entries
    exact clear_append (mergedFromItems_clear rest hothers)
      (clear_append (hmergedClear merged hmerged) (hownClear own hown))
  | .scalar .. :: _ | .list .. :: _ | .enclosing :: _ => simp [mergedFromItems] at h

end

theorem toValue_entries {node : Node} {m : Entries Key Value} (h : node.toValue = .ok (.map m)) :
    ∀ entry ∈ m, entry.2.Clear := by
  obtain ⟨_, entries, merged, own, -, hmerged, hown, hm⟩ := toValue_map h
  obtain ⟨hmergedClear, hownClear⟩ := toPairs_clear entries
  intro entry he
  obtain ⟨pair, hp, hv⟩ := mem_collect hm he
  exact hv ▸ clear_append (hmergedClear merged hmerged) (hownClear own hown) pair hp

end Yaml.Node

namespace Settings

/-- No section is named twice, and no field of a section is. -/
structure Distinct (entries : Entries Key Value) : Prop where
  sections : ∀ name ∈ sectionNames, Once (.text name) entries
  fields : ∀ name ∈ sectionNames, ∀ v, entries.get? (.text name) = some v → v.Clear

theorem distinct_nil : Distinct [] where
  sections _ _ := once_nil _
  fields _ _ _ h := by simp [get?] at h

theorem File.distinct {file : File} {entries : Entries Key Value} (h : file.read = .ok entries) :
    Distinct entries := by
  unfold File.read at h
  split at h
  · cases h
    exact distinct_nil
  · cases h
  · split at h
    · cases h
    · cases h
    · next m hread =>
      obtain rfl : m = entries := Except.ok.inj h
      obtain ⟨node, hnode⟩ : ∃ node : Yaml.Node, node.toValue = .ok (.map m) := by
        unfold Yaml.read at hread
        obtain ⟨found, -, hread⟩ := bind_eq_ok.mp hread
        split at hread
        · exact ⟨_, mapError_eq_ok.mp hread⟩
        · cases hread
      constructor
      · intro name _
        exact Yaml.Node.toValue_clear hnode m rfl name
      · intro name _ v hv
        exact Yaml.Node.toValue_entries hnode _ (mem_of_get? hv)
    · split at h
      · cases h
      · cases h
        exact distinct_nil

/-! ## The environment -/

theorem foldFieldNames_clear (form : SectionForm) (entries : Entries Key Value) :
    Value.Clear (.map (foldFieldNames form entries)) := by
  rintro m hm name
  cases hm
  refine List.foldlRecOn entries _ (once_nil _) fun acc h entry _ => ?_
  dsimp only
  split
  · exact h.put ..
  · exact h.put ..

theorem sectionOf_clear {form : SectionForm} {env : Entries String String} {v : Value}
    (h : sectionOf form env = .ok (some v)) : v.Clear := by
  unfold sectionOf at h
  split at h
  · split at h
    · cases h
      exact foldFieldNames_clear form _
    · cases h
    · cases h
    · cases h
    · next hread hunread =>
      cases h
      rintro m rfl
      cases hfields : fieldsOf form env with
      | some fields => exact (hread m fields hfields rfl).elim
      | none => exact (hunread m hfields rfl).elim
  · split at h
    · cases h
    · cases h
      exact foldFieldNames_clear form _
    · cases h

theorem Environment.distinct {env : Environment} {entries : Entries Key Value}
    (h : env.settings = .ok entries) : Distinct entries := by
  unfold Environment.settings at h
  obtain ⟨logging, hlogging, h⟩ := bind_eq_ok.mp h
  obtain ⟨index, hindex, h⟩ := bind_eq_ok.mp h
  cases h
  have hnames : logForm.name = "logging" ∧ indexForm.name = "index" := ⟨rfl, rfl⟩
  simp only [hnames]
  constructor
  · intro name _
    apply once_of_nodup
    cases logging <;> cases index <;> simp [keys]
  · intro name _ v hv
    have hmem := mem_of_get? hv
    simp only [List.mem_append, Option.mem_toList, Option.map_eq_some_iff, Prod.mk.injEq] at hmem
    rcases hmem with ⟨_, rfl, -, rfl⟩ | ⟨_, rfl, -, rfl⟩
    · exact sectionOf_clear hlogging
    · exact sectionOf_clear hindex

/-! ## Overrides -/

theorem mem_of_overrideOf? {overrides : Entries Key Value} {name : String} {v : Value}
    (h : overrideOf? overrides name = some v) : ∃ k, (k, v) ∈ overrides := by
  unfold overrideOf? at h
  rcases Option.or_eq_some_iff.mp h with h | ⟨-, h⟩
  · exact ⟨_, mem_of_get? h⟩
  · obtain ⟨⟨k, w⟩, hmem, hw⟩ := List.exists_of_findSome?_eq_some h
    cases k with
    | text s =>
      simp only [Option.ite_none_right_eq_some, Option.some.injEq] at hw
      exact ⟨_, hw.2 ▸ hmem⟩
    | null | bool | int | float | stamp => cases hw

theorem toLower_sectionName {name : String} (h : name ∈ sectionNames) :
    name.toLower ∈ sectionNames := by
  simp only [sectionNames, List.mem_cons, List.not_mem_nil, or_false] at h
  rcases h with rfl | rfl <;> decide +kernel

theorem foldOverrides_distinct {overrides : Entries Key Value}
    (h : ∀ entry ∈ overrides, entry.2.Clear) : Distinct (foldOverrides overrides) := by
  constructor
  · intro name hname
    unfold foldOverrides Once keys
    rw [List.map_append, List.count_append]
    -- The sections come first, each under its own name, and nothing else has such a name.
    refine Nat.le_trans (Nat.add_le_add ?_ ?_) (Nat.le_refl (1 + 0))
    · apply List.nodup_iff_count_le_one.mp
      cases hl : overrideOf? overrides "logging" <;> cases hi : overrideOf? overrides "index" <;>
        simp [sectionNames, hl, hi]
    · rw [Nat.le_zero, List.count_eq_zero]
      intro hmem
      obtain ⟨⟨k, v⟩, hmem, rfl⟩ := List.mem_map.mp hmem
      obtain ⟨-, hk⟩ := List.mem_filter.mp hmem
      simp [toLower_sectionName hname] at hk
  · intro name _ v hv
    rcases List.mem_append.mp (mem_of_get? hv) with hmem | hmem
    · obtain ⟨name', -, he⟩ := List.mem_filterMap.mp hmem
      obtain ⟨w, hw, he⟩ := Option.map_eq_some_iff.mp he
      cases he
      obtain ⟨k, hk⟩ := mem_of_overrideOf? hw
      exact h _ hk
    · exact h _ (List.mem_filter.mp hmem).1

end Settings

end PerlSymbols
