import PerlSymbols.Proofs.Settings.Merging

/-!
# Merged settings, path by path

A path of keys leads through maps to a value. Where two trees of maps are laid over each other, the
upper value at a path counts; two maps at the same path are merged there; and what is no map in the
upper tree hides everything below it in the lower one.
-/

namespace PerlSymbols

open Entries Settings

/-- No two keys of the map are alike. -/
def Key.Apart (m : Entries Key Value) : Prop :=
  m.keys.Pairwise fun a b => a.alike b = false

instance (m : Entries Key Value) : Decidable (Key.Apart m) :=
  inferInstanceAs (Decidable (m.keys.Pairwise _))

/-- Every map that a path leads to has keys that are apart. -/
def Value.Tree (v : Value) : Prop :=
  ∀ path m, valueAt v path = some (.map m) → Key.Apart m

namespace Key

theorem Apart.tail {entry : Key × Value} {rest : Entries Key Value} (h : Apart (entry :: rest)) :
    Apart rest :=
  (List.pairwise_cons.mp h).2

theorem Apart.head {entry : Key × Value} {rest : Entries Key Value} (h : Apart (entry :: rest)) :
    ∀ k ∈ Entries.keys rest, entry.1.alike k = false :=
  (List.pairwise_cons.mp h).1

theorem Apart.single {m : Entries Key Value} (h : Apart m) (k : Key) : Single k m := by
  induction m with
  | nil => simp [Single, keys]
  | cons entry rest ih =>
    rw [single_cons]
    split
    · next hk =>
      rw [getAlike?_eq_none, List.countP_eq_zero]
      intro j hj
      rw [alike_comm, ← alike_congr hk, h.head j hj]
      simp
    · exact ih h.tail

/-- Every entry is found under its key. -/
theorem Apart.getAlike?_of_mem {m : Entries Key Value} (h : Apart m) {entry : Key × Value}
    (hm : entry ∈ m) : getAlike? m entry.1 = some entry.2 := by
  induction m with
  | nil => cases hm
  | cons first rest ih =>
    rw [getAlike?_cons]
    rcases List.mem_cons.mp hm with rfl | hm
    · simp
    · have hne := h.head entry.1 (List.mem_map_of_mem hm)
      rw [hne, ih h.tail hm]
      simp

end Key

theorem Value.Tree.apart {m : Entries Key Value} (h : (Value.map m).Tree) : Key.Apart m :=
  h [] m rfl

theorem Value.tree_of_not_map {v : Value} (h : ∀ m, v ≠ .map m) : v.Tree := by
  intro path m hm
  cases path with
  | nil => exact absurd (by simpa [valueAt] using hm) (h m)
  | cons k path => cases v <;> first | exact absurd rfl (h _) | simp [valueAt] at hm

theorem Value.tree_map {m : Entries Key Value} (h : Key.Apart m)
    (hinner : ∀ entry ∈ m, entry.2.Tree) : (Value.map m).Tree := by
  intro path inner hm
  cases path with
  | nil =>
    simp only [valueAt, Option.some.injEq, Value.map.injEq] at hm
    exact hm ▸ h
  | cons k path =>
    rw [valueAt] at hm
    split at hm
    · next v hk =>
      obtain ⟨entry, hentry, rfl⟩ := Option.map_eq_some_iff.mp hk
      exact hinner entry (List.mem_of_find?_eq_some hentry) path inner hm
    · cases hm

theorem Value.Tree.inner {m : Entries Key Value} (h : (Value.map m).Tree) {k : Key} {v : Value}
    (hk : Key.getAlike? m k = some v) : v.Tree := by
  intro path inner hinner
  apply h (k :: path) inner
  simp only [valueAt, hk, hinner]

namespace Settings

/-! ## Values at a path -/

@[simp]
theorem valueAt_nil (v : Value) : valueAt v [] = some v := by
  cases v <;> rfl

theorem valueAt_cons (m : Entries Key Value) (k : Key) (path : List Key) :
    valueAt (.map m) (k :: path) = (Key.getAlike? m k).bind fun v => valueAt v path := by
  rw [valueAt]
  cases Key.getAlike? m k <;> rfl

/-- Nothing lies behind what is no map. -/
theorem valueAt_of_not_map {v : Value} (h : ∀ m, v ≠ .map m) (k : Key) (path : List Key) :
    valueAt v (k :: path) = none := by
  cases v with
  | map m => exact absurd rfl (h m)
  | null | bool | int | float | text | stamp | list => rfl

theorem valueAt_append (v : Value) (front back : List Key) :
    valueAt v (front ++ back) = (valueAt v front).bind fun w => valueAt w back := by
  induction front generalizing v with
  | nil => simp
  | cons k front ih =>
    cases v with
    | map m =>
      rw [List.cons_append, valueAt_cons, valueAt_cons, Option.bind_assoc]
      simp only [ih]
    | null | bool | int | float | text | stamp | list => rfl

/-- On its way, the path comes to something that is no map. -/
def Blocked (v : Value) (path : List Key) : Prop :=
  ∃ front, front <+: path ∧ front ≠ path ∧ ∃ w, valueAt v front = some w ∧ ∀ m, w ≠ .map m

theorem blocked_of_not_map {v : Value} (h : ∀ m, v ≠ .map m) (k : Key) (path : List Key) :
    Blocked v (k :: path) :=
  ⟨[], List.nil_prefix, by simp, v, valueAt_nil v, h⟩

theorem blocked_cons {m : Entries Key Value} {k : Key} {path : List Key} {v : Value}
    (hk : Key.getAlike? m k = some v) (h : Blocked v path) : Blocked (.map m) (k :: path) := by
  obtain ⟨front, hfront, hne, w, hw, hmap⟩ := h
  refine ⟨k :: front, List.cons_prefix_cons.mpr ⟨rfl, hfront⟩, by simpa using hne, w, ?_, hmap⟩
  rw [valueAt_cons, hk]
  exact hw

theorem valueAt_of_blocked {v : Value} {path : List Key} (h : Blocked v path) :
    valueAt v path = none := by
  obtain ⟨front, ⟨back, rfl⟩, hne, w, hw, hmap⟩ := h
  cases back with
  | nil => exact absurd (List.append_nil front).symm hne
  | cons k back =>
    rw [valueAt_append, hw]
    exact valueAt_of_not_map hmap k back

/-! ## What lies over what -/

/-- What is no map shows nothing of itself under a map. -/
theorem overlay_map_of_not_map {lower : Option Value} (h : ∀ l, lower ≠ some (.map l))
    (u : Entries Key Value) : overlay lower (.map u) = .map u := by
  rw [overlay]
  exact fun l he => h l he

/-- The induction is on the path: each step goes down one key in both trees, as long as both have
maps there. -/
theorem valueAt_overlay {v : Value} {path : List Key} (h : v.Tree) (hopen : ¬ Blocked v path)
    (lower : Option Value) :
    valueAt (overlay lower v) path =
      atop (lower.bind fun l => valueAt l path) (valueAt v path) := by
  induction path generalizing v lower with
  | nil => simp [atop]
  | cons k path ih =>
    by_cases hmap : ∃ u, v = .map u
    · obtain ⟨u, rfl⟩ := hmap
      by_cases hlower : ∃ l, lower = some (.map l)
      · obtain ⟨l, rfl⟩ := hlower
        have hstep : valueAt (overlay (some (.map l)) (.map u)) (k :: path) =
            (atop (Key.getAlike? l k) (Key.getAlike? u k)).bind fun w => valueAt w path := by
          rw [overlay, valueAt_cons, merge_getAlike? (h.apart.single k)]
        rw [hstep, Option.bind_some, valueAt_cons, valueAt_cons]
        cases hk : Key.getAlike? u k with
        | none => rfl
        | some w => exact ih (h.inner hk) (fun hb => hopen (blocked_cons hk hb)) _
      · have hnone : (lower.bind fun l => valueAt l (k :: path)) = none := by
          cases lower with
          | none => rfl
          | some l => exact valueAt_of_not_map (fun m he => hlower ⟨m, he ▸ rfl⟩) k path
        rw [overlay_map_of_not_map (fun l he => hlower ⟨l, he⟩), hnone, atop_none_left]
    · exact absurd (blocked_of_not_map (fun m he => hmap ⟨m, he⟩) k path) hopen

theorem valueAt_overlay_of_blocked {v : Value} {path : List Key} (h : v.Tree)
    (hblocked : Blocked v path) (lower : Option Value) :
    valueAt (overlay lower v) path = none := by
  obtain ⟨front, hfront, hne, w, hw, hmap⟩ := hblocked
  -- The way to what blocks the path is itself open.
  have hopen : ¬ Blocked v front := fun hb => by simp [valueAt_of_blocked hb] at hw
  apply valueAt_of_blocked
  refine ⟨front, hfront, hne, w, ?_, hmap⟩
  rw [valueAt_overlay h hopen, hw, atop_of_not_map _ hmap]

/-! ## Keys of a merged map -/

theorem keys_merge {upper : Entries Key Value} (h : Key.Apart upper) (lower : Entries Key Value) :
    (merge lower upper).keys =
      lower.keys ++ upper.keys.filter fun k => !lower.keys.any (·.alike k) := by
  induction upper generalizing lower with
  | nil => simp [merge, keys]
  | cons entry rest ih =>
    obtain ⟨j, v⟩ := entry
    have hcons : Entries.keys ((j, v) :: rest) = j :: Entries.keys rest := rfl
    rw [merge, ih h.tail, Key.keys_putAlike, hcons, List.filter_cons]
    by_cases hj : lower.keys.any (·.alike j) = true
    · simp [hj]
    · -- No later key is like the one that has just come in.
      have hlater : ∀ k ∈ Entries.keys rest,
          (!(lower.keys ++ [j]).any (·.alike k)) = !lower.keys.any (·.alike k) := by
        intro k hk
        simp [h.head k hk]
      simp only [hj, Bool.false_eq_true, if_false, Bool.not_false, if_true]
      rw [List.filter_congr hlater, List.append_assoc]
      rfl

/-! ## Merges that change nothing -/

theorem putAlike_of_none {m : Entries Key Value} {k : Key} (h : Key.getAlike? m k = none)
    (v : Value) : Key.putAlike m k v = m ++ [(k, v)] := by
  induction m with
  | nil => rfl
  | cons entry rest ih =>
    rw [Key.getAlike?_cons] at h
    split at h
    · cases h
    · next hk => simp [Key.putAlike, hk, ih h]

theorem putAlike_of_some {m : Entries Key Value} {k : Key} {v : Value}
    (h : Key.getAlike? m k = some v) : Key.putAlike m k v = m := by
  induction m with
  | nil => cases h
  | cons entry rest ih =>
    rw [Key.getAlike?_cons] at h
    split at h
    · next hk => simp [Key.putAlike, hk, ← Option.some.inj h]
    · next hk => simp [Key.putAlike, hk, ih h]

theorem merge_of_new {upper : Entries Key Value} (h : Key.Apart upper) {lower : Entries Key Value}
    (hnew : ∀ k ∈ upper.keys, Key.getAlike? lower k = none) :
    merge lower upper = lower ++ upper := by
  induction upper generalizing lower with
  | nil => simp [merge]
  | cons entry rest ih =>
    obtain ⟨j, v⟩ := entry
    have hj : Key.getAlike? lower j = none := hnew j List.mem_cons_self
    rw [merge, hj, overlay_none, ih h.tail, putAlike_of_none hj, List.append_assoc]
    · rfl
    · intro k hk
      rw [Key.getAlike?_putAlike, h.head k hk]
      exact hnew k (List.mem_cons_of_mem _ hk)

theorem merge_nil_left {m : Entries Key Value} (h : Key.Apart m) : merge [] m = m :=
  merge_of_new h fun _ _ => rfl

theorem merge_of_found {lower upper : Entries Key Value}
    (h : ∀ entry ∈ upper, Key.getAlike? lower entry.1 = some entry.2 ∧
      overlay (some entry.2) entry.2 = entry.2) : merge lower upper = lower := by
  induction upper with
  | nil => simp [merge]
  | cons entry rest ih =>
    obtain ⟨hfound, hsame⟩ := h entry List.mem_cons_self
    rw [merge, hfound, hsame, putAlike_of_some hfound]
    exact ih fun e he => h e (List.mem_cons_of_mem _ he)

/-- The recursion is on the map: under each key a smaller value lies over itself. -/
theorem merge_self {m : Entries Key Value} (h : (Value.map m).Tree) : merge m m = m := by
  apply merge_of_found
  intro entry hentry
  have hfound := h.apart.getAlike?_of_mem hentry
  refine ⟨hfound, ?_⟩
  obtain ⟨k, v⟩ := entry
  cases v with
  | map inner =>
    have : sizeOf inner < sizeOf m := by
      have := List.sizeOf_lt_of_mem hentry
      simp only [Prod.mk.sizeOf_spec, Value.map.sizeOf_spec] at this
      omega
    rw [overlay, merge_self (h.inner hfound)]
  | null | bool | int | float | text | stamp | list => simp [overlay]
termination_by sizeOf m

/-! ## The law of a merge -/

/-- What a path leads to in a merged map, by what it leads to in the two maps. -/
structure LaidOver (lower upper merged : Value) (path : List Key) : Prop where
  /-- What is no map counts as it is. -/
  leaf : ∀ v, valueAt upper path = some v → (∀ m, v ≠ .map m) → valueAt merged path = some v
  /-- So does a map with no map below it. -/
  fresh : ∀ u, valueAt upper path = some (.map u) → (∀ l, valueAt lower path ≠ some (.map l)) →
    valueAt merged path = some (.map u)
  /-- Two maps are merged, the keys of the lower one first. -/
  both : ∀ l u : Entries Key Value, valueAt lower path = some (.map l) →
    valueAt upper path = some (.map u) → valueAt merged path = some (.map (merge l u)) ∧
      (merge l u).keys = l.keys ++ u.keys.filter fun k => !l.keys.any (·.alike k)
  /-- Nothing lies behind what is no map in the upper tree. -/
  hidden : Blocked upper path → valueAt merged path = none
  /-- Elsewhere the lower tree shows. -/
  below : ¬ Blocked upper path → valueAt upper path = none →
    valueAt merged path = valueAt lower path

theorem laidOver_overlay {v : Value} (h : v.Tree) (lower : Value) (path : List Key) :
    LaidOver lower v (overlay (some lower) v) path := by
  have hsome : ∀ w, valueAt v path = some w → valueAt (overlay (some lower) v) path =
      some (overlay (valueAt lower path) w) := by
    intro w hw
    have hopen : ¬ Blocked v path := fun hb => by simp [valueAt_of_blocked hb] at hw
    rw [valueAt_overlay h hopen, hw]
    rfl
  constructor
  case leaf =>
    intro w hw hmap
    rw [hsome w hw, overlay_of_not_map _ hmap]
  case fresh =>
    intro u hu hl
    rw [hsome _ hu, overlay_map_of_not_map hl]
  case both =>
    intro l u hl hu
    refine ⟨?_, keys_merge (h path u hu) l⟩
    rw [hsome _ hu, hl, overlay]
  case hidden => exact fun hb => valueAt_overlay_of_blocked h hb _
  case below =>
    intro hopen hnone
    rw [valueAt_overlay h hopen, hnone]
    rfl

/-- **A merge, path by path.** In a map that a file or a program holds no two keys are alike, at any
depth; nothing is asked of the map below. -/
theorem merge_path_wise {upper : Entries Key Value} (h : (Value.map upper).Tree)
    (lower : Entries Key Value) :
    (∀ path, LaidOver (.map lower) (.map upper) (.map (merge lower upper)) path) ∧
      merge upper [] = upper ∧ merge [] upper = upper ∧ merge upper upper = upper := by
  refine ⟨fun path => ?_, by rw [merge], merge_nil_left h.apart, merge_self h⟩
  have hlaid := laidOver_overlay h (.map lower) path
  rwa [overlay] at hlaid

/-- A number and a map meet maps, and `true` meets the number one that it is like. -/
theorem merge_path_wise_mixed :
    let lower : Entries Key Value :=
      [(.text "index", .map [(.text "dir", .text "a"), (.text "retries", .int 2)]), (.int 1, .null)]
    let upper : Entries Key Value :=
      [(.bool true, .map [(.text "new", .int 7)]), (.text "index", .map [(.text "dir", .int 3)])]
    merge lower upper =
        [(.text "index", .map [(.text "dir", .int 3), (.text "retries", .int 2)]),
          (.int 1, .map [(.text "new", .int 7)])] ∧
      valueAt (.map (merge lower upper)) [.float 0x3ff0000000000000, .text "new"] = some (.int 7) ∧
      valueAt (.map (merge lower upper)) [.text "index", .text "dir", .text "a"] = none ∧
      valueAt (.map (merge lower upper)) [.text "index", .text "retries"] = some (.int 2) ∧
      merge upper upper = upper := by
  intro lower upper
  have htree : (Value.map upper).Tree := by
    refine Value.tree_map (by decide) ?_
    simp only [upper, List.forall_mem_cons, List.not_mem_nil, false_implies, implies_true, and_true]
    have hleaf (k : Key) (n : Int) : (Value.map [(k, .int n)]).Tree :=
      Value.tree_map (by simp [Key.Apart, keys])
        (by simpa using Value.tree_of_not_map fun _ h => Value.noConfusion h)
    exact ⟨hleaf _ _, hleaf _ _⟩
  obtain ⟨hpaths, -, -, hself⟩ := merge_path_wise htree lower
  refine ⟨rfl, ?_, ?_, ?_, hself⟩
  · exact (hpaths _).leaf _ rfl fun _ h => Value.noConfusion h
  · refine (hpaths _).hidden ⟨[.text "index", .text "dir"], by simp, by simp, .int 3, rfl, ?_⟩
    exact fun _ h => Value.noConfusion h
  · refine (hpaths _).below ?_ rfl
    rintro ⟨front, hfront, hne, w, hw, hmap⟩
    rw [List.prefix_cons_iff] at hfront
    obtain rfl | ⟨rest, rfl, hrest⟩ := hfront
    · exact hmap _ (Option.some.inj hw).symm
    · obtain rfl | rfl : rest = [] ∨ rest = [.text "retries"] := by
        simpa [List.prefix_cons_iff] using hrest
      · exact hmap _ (Option.some.inj hw).symm
      · exact hne rfl

end Settings

end PerlSymbols
