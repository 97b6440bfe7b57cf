import PerlSymbols.Decimal.Binary
import PerlSymbols.Entries
import PerlSymbols.Stamp

/-!
# Values of settings files and indexer records

Settings files, environment settings and the records that the indexer publishes hold values whose
type is known only when they are read. Whole numbers have no bound and stay apart from binary
numbers.
-/

namespace PerlSymbols

/-- Keys of a map. A settings file may have keys that are not text; a binary number is kept by its
bits. -/
inductive Key where
  | null
  | bool (b : Bool)
  | int (n : Int)
  | float (bits : UInt64)
  | text (s : String)
  | stamp (t : Stamp)
  deriving DecidableEq

inductive Value where
  | null
  | bool (b : Bool)
  | int (n : Int)
  | float (x : Float)
  | text (s : String)
  | stamp (t : Stamp)
  | list (items : List Value)
  | map (entries : List (Key × Value))

instance : Inhabited Value := ⟨.null⟩

namespace Value

/-- A map with text keys. -/
def record (fields : List (String × Value)) : Value :=
  .map (fields.map fun (name, v) => (.text name, v))

/-- The value under a text key; `none` for a missing key and for what is no map. -/
def field? (v : Value) (name : String) : Option Value :=
  match v with
  | .map entries => Entries.get? entries (.text name)
  | _ => none

/-- Null, false, zero and what is empty do not count as given. -/
def isGiven : Value → Bool
  | .null => false
  | .bool b => b
  | .int n => n != 0
  | .float x => x != 0.0
  | .text s => !s.isEmpty
  | .stamp _ => true
  | .list items => !items.isEmpty
  | .map entries => !entries.isEmpty

/-- Lists and maps cannot be looked up in a set. -/
def isComposite : Value → Bool
  | .list _ | .map _ => true
  | _ => false

end Value

def Key.toValue : Key → Value
  | .null => .null
  | .bool b => .bool b
  | .int n => .int n
  | .float bits => .float (Float.ofBits bits)
  | .text s => .text s
  | .stamp t => .stamp t

/-- The key that a value makes; lists and maps make none. -/
def Value.toKey? : Value → Option Key
  | .null => some .null
  | .bool b => some (.bool b)
  | .int n => some (.int n)
  | .float x => some (.float x.toBits)
  | .text s => some (.text s)
  | .stamp t => some (.stamp t)
  | .list _ | .map _ => none

/-- What a key counts as when keys are compared. Truth values are zero and one, a binary number
without fraction is a whole one, and a time of day in a zone is an instant. -/
inductive Key.Sense where
  | whole (n : Int)
  | instant (micros : Int)
  | itself (k : Key)
  deriving DecidableEq

def Key.sense : Key → Sense
  | .bool b => .whole (if b then 1 else 0)
  | .int n => .whole n
  | .float bits =>
    match Decimal.whole? (Float.ofBits bits) with
    | some n => .whole n
    | none => .itself (.float bits)
  | .stamp t =>
    match t.instant? with
    | some micros => .instant micros
    | none => .itself (.stamp t)
  | k => .itself k

/-- Keys that are alike are one key. -/
def Key.alike (a b : Key) : Bool :=
  a.sense == b.sense

/-- The value under the first key that is alike. -/
def Key.getAlike? (m : Entries Key Value) (k : Key) : Option Value :=
  (m.find? fun entry => entry.1.alike k).map Prod.snd

/-- Puts a value under the first key that is alike. -/
def Key.putAlike (m : Entries Key Value) (k : Key) (v : Value) : Entries Key Value :=
  match m with
  | [] => [(k, v)]
  | (k', a) :: rest => if k'.alike k then (k', v) :: rest else (k', a) :: putAlike rest k v

namespace Key

theorem alike_iff {a b : Key} : a.alike b = true ↔ a.sense = b.sense := by
  simp [alike]

@[simp]
theorem alike_refl (k : Key) : k.alike k = true :=
  alike_iff.mpr rfl

theorem alike_comm (a b : Key) : a.alike b = b.alike a := by
  rw [Bool.eq_iff_iff, alike_iff, alike_iff, eq_comm]

theorem alike_congr {a b : Key} (h : a.alike b = true) (c : Key) : a.alike c = b.alike c := by
  rw [alike, alike, alike_iff.mp h]

/-- A text counts as nothing else. -/
@[simp]
theorem alike_text {k : Key} {s : String} : k.alike (.text s) = true ↔ k = .text s := by
  rw [alike_iff]
  constructor
  · intro h
    cases k with
    | text t => simpa [sense] using h
    | null | bool | int => simp [sense] at h
    | float | stamp => simp only [sense] at h; split at h <;> simp at h
  · rintro rfl
    rfl

@[simp]
theorem getAlike?_nil (k : Key) : getAlike? [] k = none := rfl

theorem getAlike?_cons (entry : Key × Value) (rest : Entries Key Value) (k : Key) :
    getAlike? (entry :: rest) k = if entry.1.alike k then some entry.2 else getAlike? rest k := by
  unfold getAlike?
  rw [List.find?_cons]
  cases entry.1.alike k <;> rfl

theorem getAlike?_text (m : Entries Key Value) (s : String) :
    getAlike? m (.text s) = m.get? (.text s) := by
  induction m with
  | nil => rfl
  | cons entry rest ih => simp [getAlike?_cons, Entries.get?, ih]

theorem getAlike?_putAlike (m : Entries Key Value) (k k' : Key) (v : Value) :
    getAlike? (putAlike m k v) k' = if k.alike k' then some v else getAlike? m k' := by
  induction m with
  | nil => simp [putAlike, getAlike?_cons]
  | cons entry rest ih =>
    obtain ⟨j, a⟩ := entry
    rw [putAlike]
    by_cases hj : j.alike k = true
    · simp only [hj, if_true, getAlike?_cons, alike_congr hj k']
      split <;> rfl
    · simp only [hj, Bool.false_eq_true, if_false, getAlike?_cons, ih]
      by_cases hk : k.alike k' = true
      · have hjk : ¬ j.alike k' = true := by rwa [alike_comm, ← alike_congr hk, alike_comm]
        simp [hk, hjk]
      · simp [hk]

end Key

end PerlSymbols
