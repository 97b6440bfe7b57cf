import Mathlib.Algebra.BigOperators.Group.List.Lemmas
import Mathlib.Algebra.Ring.Nat
import PerlSymbols.Document
import PerlSymbols.Proofs.Element.Reloading

/-!
# Buckets by name

An element that is added goes to the end of the bucket of its name, and a name that is new gets a
bucket at the end. So the buckets group the elements by name: nothing is lost, nothing is stored
twice, and the order in which elements were given decides both the order of the buckets and the
order within each of them.
-/

namespace PerlSymbols

/-! ## Names in the order of first occurrence -/

section FirstOccurrences

variable {α : Type} [DecidableEq α]

theorem eraseDups_concat (xs : List α) (x : α) :
    (xs ++ [x]).eraseDups = if x ∈ xs.eraseDups then xs.eraseDups else xs.eraseDups ++ [x] := by
  rw [List.eraseDups_append]
  by_cases hx : x ∈ xs <;> simp [List.removeAll, hx, List.eraseDups_cons]

theorem nodup_eraseDups (xs : List α) : xs.eraseDups.Nodup := by
  induction xs using List.reverseRecOn with
  | nil => simp
  | append_singleton xs x ih =>
    rw [eraseDups_concat]
    split
    · exact ih
    · next hx =>
      rw [← List.concat_eq_append]
      exact ih.concat hx

theorem perm_eraseDups_dedup (xs : List α) : xs.eraseDups.Perm xs.dedup := by
  rw [List.perm_ext_iff_of_nodup (nodup_eraseDups xs) xs.nodup_dedup]
  simp

end FirstOccurrences

/-! ## Tables -/

namespace Entries

variable {κ α : Type}

/-- The map that gives each of the keys its value. -/
def table (keys : List κ) (value : κ → α) : Entries κ α :=
  keys.map fun k => (k, value k)

theorem keys_table (keys : List κ) (value : κ → α) : (table keys value).keys = keys := by
  simp [Entries.keys, table, Function.comp_def]

variable [DecidableEq κ]

theorem get?_table (keys : List κ) (value : κ → α) (k : κ) :
    (table keys value).get? k = if k ∈ keys then some (value k) else none := by
  induction keys with
  | nil => rfl
  | cons j keys ih =>
    rw [table, List.map_cons, get?]
    by_cases hj : j = k
    · simp [hj]
    · rw [table] at ih
      simp [hj, Ne.symm hj, ih]

theorem table_update_of_not_mem {keys : List κ} {k : κ} (h : k ∉ keys) (value : κ → α) (a : α) :
    table keys (Function.update value k a) = table keys value := by
  apply List.map_congr_left
  intro j hj
  rw [Function.update_of_ne (ne_of_mem_of_not_mem hj h)]

theorem put_table {keys : List κ} (h : keys.Nodup) (value : κ → α) (k : κ) (a : α) :
    (table keys value).put k a =
      table (if k ∈ keys then keys else keys ++ [k]) (Function.update value k a) := by
  induction keys with
  | nil => simp [table, put]
  | cons j keys ih =>
    obtain ⟨hj, hkeys⟩ := List.nodup_cons.mp h
    rw [table, List.map_cons, put]
    by_cases hjk : j = k
    · subst hjk
      have hrest := table_update_of_not_mem hj value a
      simp only [if_true, List.mem_cons_self, table, List.map_cons, Function.update_self]
      exact congrArg _ hrest.symm
    · have hkept : (if k ∈ j :: keys then j :: keys else j :: keys ++ [k]) =
          j :: if k ∈ keys then keys else keys ++ [k] := by
        by_cases hk : k ∈ keys <;> simp [hk, Ne.symm hjk]
      rw [if_neg hjk, hkept, table, List.map_cons, Function.update_of_ne hjk]
      exact congrArg _ (ih hkeys)

end Entries

/-! ## Elements by name -/

namespace Element

/-- The elements of each name, under the names in the order of their first occurrence. -/
def byName (elements : List Element) : Entries String (List Element) :=
  .table (elements.map name).eraseDups fun name => elements.filter (·.name = name)

theorem keys_byName_nodup (elements : List Element) : (byName elements).keys.Nodup := by
  rw [byName, Entries.keys_table]
  exact nodup_eraseDups _

theorem get?_byName (elements : List Element) (name : String) :
    ((byName elements).get? name).getD [] = elements.filter (·.name = name) := by
  rw [byName, Entries.get?_table]
  split
  · rfl
  · next hname =>
    rw [List.mem_eraseDups] at hname
    rw [Option.getD_none, eq_comm, List.filter_eq_nil_iff]
    intro e he heq
    exact hname (List.mem_map.mpr ⟨e, he, of_decide_eq_true heq⟩)

theorem ne_nil_of_mem_byName {elements : List Element} {entry : String × List Element}
    (h : entry ∈ byName elements) : entry.2 ≠ [] := by
  obtain ⟨name, hname, rfl⟩ := List.mem_map.mp h
  obtain ⟨e, he, rfl⟩ := List.mem_map.mp (List.mem_eraseDups.mp hname)
  exact List.ne_nil_of_mem (List.mem_filter.mpr ⟨he, decide_eq_true rfl⟩)

theorem sum_sizes_byName (elements : List Element) :
    ((byName elements).map (·.2.length)).sum = elements.length := by
  have hsize : ∀ name, (elements.filter (·.name = name)).length =
      (elements.map Element.name).count name := by
    intro name
    rw [List.count, List.countP_map, List.countP_eq_length_filter]
    rfl
  calc ((byName elements).map (·.2.length)).sum
    _ = ((elements.map name).eraseDups.map fun n => (elements.map name).count n).sum := by
      simp only [byName, Entries.table, List.map_map, Function.comp_def, hsize]
    _ = ((elements.map name).dedup.map fun n => (elements.map name).count n).sum :=
      ((perm_eraseDups_dedup _).map _).sum_eq
    _ = (elements.map name).length := List.sum_map_count_dedup_eq_length _
    _ = elements.length := List.length_map _

end Element

namespace Document

open Element

theorem addTo_byName (elements : List Element) (e : Element) :
    addTo (byName elements) e = byName (elements ++ [e]) := by
  -- The group of the element's name grows by it, also where it was empty.
  have hvalue : Function.update (fun name => elements.filter (·.name = name)) e.name
        (elements.filter (·.name = e.name) ++ [e]) =
      fun name => (elements ++ [e]).filter (·.name = name) := by
    funext name
    by_cases hname : name = e.name
    · simp [hname, List.filter_append]
    · simp [Function.update_of_ne hname, List.filter_append, Ne.symm hname]
  rw [addTo, get?_byName, byName, Entries.put_table (nodup_eraseDups _), hvalue, byName,
    List.map_append, List.map_singleton, eraseDups_concat]

theorem foldl_addTo_byName (elements later : List Element) :
    later.foldl addTo (byName elements) = byName (elements ++ later) := by
  induction later generalizing elements with
  | nil => simp
  | cons e later ih =>
    rw [List.foldl_cons, addTo_byName, ih, List.append_assoc, List.singleton_append]

/-- The elements added one after the other. -/
def addElements (doc : Document) (elements : List Element) : Document :=
  elements.foldl addElement doc

theorem buckets_addElements (doc : Document) (later : List Element) :
    (doc.addElements later).buckets = later.foldl addTo doc.buckets := by
  induction later generalizing doc with
  | nil => rfl
  | cons e later ih => exact ih (doc.addElement e)

/-- The document has the elements in its buckets, grouped by name. -/
structure Groups (doc : Document) (elements : List Element) : Prop where
  /-- Both orders are those in which the elements were given. -/
  buckets : doc.buckets = byName elements
  once : doc.buckets.keys.Nodup
  candidates : ∀ name, doc.candidates name = elements.filter (·.name = name)
  filled : ∀ entry ∈ doc.buckets, entry.2 ≠ []
  sizes : (doc.buckets.map (·.2.length)).sum = elements.length

theorem groups_of_buckets {doc : Document} {elements : List Element}
    (h : doc.buckets = byName elements) : doc.Groups elements where
  buckets := h
  once := by rw [h]; exact keys_byName_nodup elements
  candidates name := by rw [candidates, h, get?_byName]
  filled entry hentry := ne_nil_of_mem_byName (h ▸ hentry)
  sizes := by rw [h, sum_sizes_byName]

theorem Groups.addElements {doc : Document} {elements : List Element} (h : doc.Groups elements)
    (later : List Element) : (doc.addElements later).Groups (elements ++ later) := by
  apply groups_of_buckets
  rw [buckets_addElements, h.buckets, foldl_addTo_byName]

theorem groups_ofElements (uri : String) (elements : List Element)
    (canonical : Entries String Element) (parents : Entries Key Value) :
    (ofElements uri elements canonical parents).Groups elements := by
  have hempty : Groups { uri, canonical, parents } [] := groups_of_buckets rfl
  exact hempty.addElements elements

/-! ## Documents that are loaded -/

/-- The records of the elements, as the indexer publishes them. -/
def records (v : Value) : List Value :=
  match v.field? "elems" with
  | some (.list items) => items
  | _ => []

/-- Each record gives its element. -/
def Loads (records : List Value) (elements : List Element) : Prop :=
  List.Forall₂ (fun record e => Element.ofValue record = .ok e) records elements

theorem loads_of_mapM {items : List Value} {elements : List Element}
    (h : items.mapM loadElement = .ok elements) : Loads items elements := by
  rw [mapM_eq_ok] at h
  exact h.imp fun _ _ hload => mapError_eq_ok.mp hload

theorem Loads.eq_nil {items : List Value} {elements : List Element} (h : Loads items elements)
    (hnone : ∀ item ∈ items, ∀ entries, item ≠ .map entries) : items = [] := by
  cases h with
  | nil => rfl
  | cons hfirst _ =>
    obtain ⟨entries, hmap, -⟩ := ofValue_eq_ok.mp hfirst
    exact absurd hmap (hnone _ List.mem_cons_self entries)

/-- An element is a map. The keys of a map are none, and neither are the characters of a text, so
that these give elements only if they are empty. -/
theorem records_of_loads {entries : Entries Key Value} {items : List Value}
    {elements : List Element}
    (hitems : sequence (pick entries ["elems"] (.list [])) = .ok items)
    (h : Loads items elements) : records (.map entries) = items := by
  have hpick : pick entries ["elems"] (.list []) =
      (entries.get? (.text "elems")).getD (.list []) := by
    simp [pick]
  rw [hpick] at hitems
  unfold records Value.field?
  dsimp only
  cases hv : entries.get? (.text "elems") with
  | none =>
    rw [hv] at hitems
    cases hitems
    rfl
  | some v =>
    rw [hv, Option.getD_some] at hitems
    cases v with
    | list xs =>
      cases hitems
      rfl
    | map m =>
      cases hitems
      refine (h.eq_nil ?_).symm
      simp only [List.forall_mem_map]
      rintro ⟨k, v⟩ - entries
      cases k <;> simp [Key.toValue]
    | text s =>
      cases hitems
      refine (h.eq_nil ?_).symm
      simp
    | null | bool | int | float | stamp => cases hitems

theorem groups_ofValue {v : Value} {doc : Document} (h : ofValue v = .ok doc) :
    ∃ elements, Loads (records v) elements ∧ doc.Groups elements := by
  cases v with
  | map entries =>
    unfold ofValue at h
    dsimp only at h
    split at h
    · obtain ⟨uri, -, h⟩ := bind_eq_ok.mp h
      obtain ⟨items, hitems, h⟩ := bind_eq_ok.mp h
      obtain ⟨elements, helements, h⟩ := bind_eq_ok.mp h
      obtain ⟨canonical, -, h⟩ := bind_eq_ok.mp h
      obtain ⟨parents, -, h⟩ := bind_eq_ok.mp h
      obtain ⟨imported, -, h⟩ := bind_eq_ok.mp h
      cases h
      have hloads := loads_of_mapM helements
      refine ⟨elements, by rwa [records_of_loads hitems hloads], ?_⟩
      exact groups_of_buckets (groups_ofElements uri elements canonical parents).buckets
    · cases h
  | null | bool | int | float | text | stamp | list => cases h

/-! ## The theorem -/

/-- **Buckets group the elements by name**, those that a document is made of, those that it is
loaded with, and all that are added later. -/
theorem buckets_group_elements :
    (∀ uri elements canonical parents later,
      ((ofElements uri elements canonical parents).addElements later).Groups
        (elements ++ later)) ∧
    ∀ v doc, ofValue v = .ok doc → ∃ elements, Loads (records v) elements ∧
      ∀ later, (doc.addElements later).Groups (elements ++ later) := by
  constructor
  · intro uri elements canonical parents later
    exact (groups_ofElements uri elements canonical parents).addElements later
  · intro v doc h
    obtain ⟨elements, hloads, hgroups⟩ := groups_ofValue h
    exact ⟨elements, hloads, hgroups.addElements⟩

def subRecord (name : String) (line : Int) : Value :=
  .record [("name", .text name), ("type", .text "s"), ("line", .int line)]

/-- A sub that is declared twice, with another one in between. -/
def repeatedSub : Value :=
  .record [("uri", .text "u"),
    ("elems", .list [subRecord "run" 4, subRecord "stop" 6, subRecord "run" 2])]

/-- Another declaration of the second sub and a new one follow. -/
theorem buckets_group_elements_repeated :
    let later : List Element := [{ name := "stop", tag := .known .localSub, line := 1 },
      { name := "reset", tag := .known .localSub, line := 9 }]
    ∃ doc elements, ofValue repeatedSub = .ok doc ∧ Loads (records repeatedSub) elements ∧
      (doc.addElements later).Groups (elements ++ later) ∧
      (doc.addElements later).buckets.map (fun entry => (entry.1, entry.2.map (·.line))) =
        [("run", [4, 2]), ("stop", [6, 1]), ("reset", [9])] := by
  intro later
  obtain ⟨elements, hloads, hgroups⟩ := buckets_group_elements.2 repeatedSub _ rfl
  exact ⟨_, elements, rfl, hloads, hgroups later, rfl⟩

end Document

end PerlSymbols
