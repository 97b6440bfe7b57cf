import Mathlib.Data.List.Forall2
import PerlSymbols.Index.Polling
import PerlSymbols.Proofs.Waiting.Turn

/-!
# What an outline lists

The buckets of a document are gone through in order, and only their first elements count. The first
one that spoils the outline decides how it fails. If none does, there is one entry for each sub and
each package, in the order of the buckets.
-/

namespace PerlSymbols

/-! ## Lines -/

section Lines

variable {n : Int}

theorem Position.coordinate_of_le (which : Coordinate) (h : 0 ≤ n ∧ n ≤ limit) :
    coordinate which (.int n) = .ok n.toNat := by
  obtain ⟨n, rfl⟩ := Int.eq_ofNat_of_zero_le h.1
  have hle : n ≤ limit := by omega
  simp [coordinate, hle]

theorem Position.coordinate_of_lt (which : Coordinate) (h : n < 0 ∨ limit < n) :
    coordinate which (.int n) = .error ⟨which, (Value.int n).written⟩ := by
  cases n with
  | ofNat n =>
    have hlt : ¬ n ≤ limit := by
      rw [Int.ofNat_eq_natCast] at h
      omega
    simp [coordinate, hlt]
  | negSucc n => simp [coordinate]

theorem Location.ofLine_of_le (uri : String) (h : 0 ≤ n ∧ n ≤ Position.limit) :
    ofLine uri (.int n) = .ok ⟨uri, ⟨n.toNat, 0⟩, ⟨n.toNat, lastCharacter⟩⟩ := by
  have hline := Position.coordinate_of_le .line h
  simp only [ofLine, Position.ofValues, hline]
  rfl

theorem Location.ofLine_of_lt (uri : String) (h : n < 0 ∨ Position.limit < n) :
    ofLine uri (.int n) = .error ⟨.line, (Value.int n).written⟩ := by
  have hline := Position.coordinate_of_lt .line h
  simp only [ofLine, Position.ofValues, hline]
  rfl

end Lines

/-! ## First elements -/

namespace Element

/-- Why an outline fails on an element. -/
inductive Spoils (e : Element) : RequestError → Prop where
  | tag {v : Value} (htag : e.tag = .raw v) (hv : v.isComposite = true) : Spoils e .compositeTag
  | line {kind : Kind} (htag : e.tag = .known kind) (hkind : kind = .localSub ∨ kind = .package)
      (hline : e.line < 0 ∨ 2147483647 < e.line) :
      Spoils e (.position ⟨.line, (Value.int e.line).written⟩)

/-- Subs and packages are listed. -/
def isListed (e : Element) : Bool :=
  e.kind? = some .localSub || e.kind? = some .package

/-- The entry of a listed element, under the name of its bucket. -/
structure ShownAs (uri : String) (listed : String × Element) (symbol : Symbol) : Prop where
  name : symbol.name = listed.1
  sort : symbol.sort = if listed.2.kind? = some .package then .package else .function
  uri : symbol.location.uri = uri
  start : (symbol.location.start.line : Int) = listed.2.line ∧
    symbol.location.start.character = 0
  stop : (symbol.location.stop.line : Int) = listed.2.line ∧
    symbol.location.stop.character = 100

end Element

namespace Outline

open Element

variable {uri name : String} {e : Element} {rest : List Element}

theorem entry_of_spoils {err : RequestError} (h : e.Spoils err) :
    entry? uri name (e :: rest) = .error err := by
  cases h with
  | tag htag hv => simp [ entry?, htag, hv]
  | @line kind htag hkind hline =>
    have hlisted : kind.isOutlined = true := by rcases hkind with rfl | rfl <;> rfl
    have hlimit : e.line < 0 ∨ Position.limit < e.line := hline
    simp only [ entry?, htag, hlisted, Location.ofLine_of_lt uri hlimit]
    rfl

theorem entry_of_not_isListed (hnot : e.isListed = false) (h : ∀ err, ¬ e.Spoils err) :
    entry? uri name (e :: rest) = .ok none := by
  cases htag : e.tag with
  | raw v =>
    have hv : ¬ v.isComposite = true := fun hv => h _ (.tag htag hv)
    simp [ entry?, htag, hv]
  | known kind =>
    have hkind : kind.isOutlined = false := by
      cases kind <;> simp_all [isListed, Element.kind?, Tag.kind?, Kind.isOutlined]
    simp [ entry?, htag, hkind]

theorem entry_of_isListed (uri : String) (hlisted : e.isListed = true) (h : ∀ err, ¬ e.Spoils err) :
    ∃ symbol, entry? uri name (e :: rest) = .ok (some symbol) ∧
      ShownAs uri (name, e) symbol := by
  obtain ⟨kind, htag, hkind⟩ : ∃ kind, e.tag = .known kind ∧
      (kind = .localSub ∨ kind = .package) := by
    cases htag : e.tag with
    | raw v => simp [isListed, Element.kind?, Tag.kind?, htag] at hlisted
    | known kind => simpa [isListed, Element.kind?, Tag.kind?, htag] using hlisted
  have hline : 0 ≤ e.line ∧ e.line ≤ Position.limit := by
    have hnot : ¬ (e.line < 0 ∨ 2147483647 < e.line) := fun hline => h _ (.line htag hkind hline)
    simp only [Position.limit]
    omega
  have houtlined : kind.isOutlined = true := by rcases hkind with rfl | rfl <;> rfl
  simp only [ entry?, htag, houtlined, Location.ofLine_of_le uri hline]
  refine ⟨_, rfl, rfl, ?_, rfl, ⟨?_, rfl⟩, ⟨?_, rfl⟩⟩
  · simp [Element.kind?, Tag.kind?, htag]
  · exact Int.toNat_of_nonneg hline.1
  · exact Int.toNat_of_nonneg hline.1

/-! ## Buckets -/

/-- The first element of the bucket spoils the outline. -/
def Spoiled (bucket : List Element) : Prop :=
  ∃ e ∈ bucket.head?, ∃ err, e.Spoils err

/-- The elements that are listed, each with the name of its bucket. -/
def listed (buckets : Entries String (List Element)) : List (String × Element) :=
  buckets.filterMap fun (name, bucket) => (bucket.head?.filter isListed).map (name, ·)

variable {buckets front back : Entries String (List Element)}

theorem spoiled_or_clean (buckets : Entries String (List Element)) :
    (∀ entry ∈ buckets, ¬ Spoiled entry.2) ∨
    ∃ front name e rest back err, buckets = front ++ (name, e :: rest) :: back ∧
      (∀ entry ∈ front, ¬ Spoiled entry.2) ∧ Spoils e err := by
  induction buckets with
  | nil => exact Or.inl (by simp)
  | cons entry buckets ih =>
    obtain ⟨name, bucket⟩ := entry
    by_cases hentry : Spoiled bucket
    · obtain ⟨e, hhead, err, he⟩ := hentry
      obtain ⟨rest, rfl⟩ := List.head?_eq_some_iff.mp hhead
      exact Or.inr ⟨[], name, e, rest, buckets, err, rfl, by simp, he⟩
    · rcases ih with hclean | ⟨front, name', e, rest, back, err, rfl, hfront, he⟩
      · exact Or.inl (List.forall_mem_cons.mpr ⟨hentry, hclean⟩)
      · refine Or.inr ⟨(name, bucket) :: front, name', e, rest, back, err, rfl, ?_, he⟩
        exact List.forall_mem_cons.mpr ⟨hentry, hfront⟩

/-- A bucket that does not spoil the outline adds its entry, if it has one. -/
theorem ofBuckets_cons_of_not_spoiled (uri : String) {bucket : List Element}
    (h : ¬ Spoiled bucket) :
    ∃ symbols, List.Forall₂ (ShownAs uri) (listed [(name, bucket)]) symbols ∧
      ∀ buckets, ofBuckets uri ((name, bucket) :: buckets) =
        (ofBuckets uri buckets).map (symbols ++ ·) := by
  have hmap : ∀ (entry : Option Symbol), entry? uri name bucket = .ok entry → ∀ buckets,
      ofBuckets uri ((name, bucket) :: buckets) =
        (ofBuckets uri buckets).map (entry.toList ++ ·) := by
    intro entry hentry buckets
    rw [ofBuckets, hentry]
    cases ofBuckets uri buckets <;> rfl
  cases bucket with
  | nil => exact ⟨[], .nil, hmap none rfl⟩
  | cons e rest =>
    have hclean : ∀ err, ¬ e.Spoils err := fun err he => h ⟨e, rfl, err, he⟩
    cases hlisted : e.isListed with
    | false =>
      refine ⟨[], ?_, hmap none (entry_of_not_isListed hlisted hclean)⟩
      simp [listed, hlisted]
    | true =>
      obtain ⟨symbol, hentry, hshown⟩ := entry_of_isListed uri hlisted hclean
      refine ⟨[symbol], ?_, hmap (some symbol) hentry⟩
      simpa [listed, hlisted] using hshown

theorem ofBuckets_of_clean (uri : String) (h : ∀ entry ∈ buckets, ¬ Spoiled entry.2) :
    ∃ found, ofBuckets uri buckets = .ok found ∧
      List.Forall₂ (ShownAs uri) (listed buckets) found := by
  induction buckets with
  | nil => exact ⟨[], rfl, .nil⟩
  | cons entry buckets ih =>
    obtain ⟨hentry, hrest⟩ := List.forall_mem_cons.mp h
    obtain ⟨symbols, hsymbols, hcons⟩ := ofBuckets_cons_of_not_spoiled uri hentry
    obtain ⟨found, hfound, hall⟩ := ih hrest
    refine ⟨symbols ++ found, by rw [hcons, hfound]; rfl, ?_⟩
    have hlisted : listed (entry :: buckets) = listed [entry] ++ listed buckets := by
      rw [listed, ← List.singleton_append, List.filterMap_append]
      rfl
    rw [hlisted]
    exact List.rel_append hsymbols hall

theorem ofBuckets_of_spoils {err : RequestError} (hfront : ∀ entry ∈ front, ¬ Spoiled entry.2)
    (he : e.Spoils err) : ofBuckets uri (front ++ (name, e :: rest) :: back) = .error err := by
  induction front with
  | nil =>
    rw [List.nil_append, ofBuckets, entry_of_spoils he]
    rfl
  | cons entry front ih =>
    obtain ⟨hentry, hfront⟩ := List.forall_mem_cons.mp hfront
    obtain ⟨symbols, -, hcons⟩ := ofBuckets_cons_of_not_spoiled uri hentry
    rw [List.cons_append, hcons, ih hfront]
    rfl

theorem names_listed (buckets : Entries String (List Element)) :
    ((listed buckets).map Prod.fst).Sublist buckets.keys := by
  induction buckets with
  | nil => exact .slnil
  | cons entry buckets ih =>
    obtain ⟨name, bucket⟩ := entry
    simp only [listed, List.filterMap_cons]
    split
    · exact ih.cons name
    · next pair hpair =>
      obtain ⟨e, -, rfl⟩ := Option.map_eq_some_iff.mp hpair
      exact ih.cons_cons name

end Outline

/-! ## Documents -/

theorem Element.ShownAs.unique {uri : String} {listed : String × Element} {symbol symbol' : Symbol}
    (h : ShownAs uri listed symbol) (h' : ShownAs uri listed symbol') : symbol = symbol' := by
  obtain ⟨name, sort, uri, ⟨line, character⟩, ⟨line₂, character₂⟩⟩ := symbol
  obtain ⟨name', sort', uri', ⟨line', character'⟩, ⟨line₂', character₂'⟩⟩ := symbol'
  obtain ⟨rfl, rfl, rfl, ⟨hline, rfl⟩, ⟨hline₂, rfl⟩⟩ := h
  obtain ⟨rfl, rfl, rfl, ⟨hline', rfl⟩, ⟨hline₂', rfl⟩⟩ := h'
  have hsame : line = line' ∧ line₂ = line₂' := by
    dsimp only at hline hline₂ hline' hline₂'
    omega
  rw [hsame.1, hsame.2]

namespace Document

/-- How a request for the outline of a document is to end. -/
inductive Outlined (uri : String) (doc : Document) : Outcome → Prop where
  /-- The first element that spoils the outline decides. -/
  | fails {front back : Entries String (List Element)} {name : String} {e : Element}
      {rest : List Element} {err : RequestError}
      (hbuckets : doc.buckets = front ++ (name, e :: rest) :: back)
      (hfront : ∀ entry ∈ front, ¬ Outline.Spoiled entry.2) (he : e.Spoils err) :
      Outlined uri doc (.failed (.request err))
  | lists {found : List Symbol} (hclean : ∀ entry ∈ doc.buckets, ¬ Outline.Spoiled entry.2)
      (hfound : List.Forall₂ (Element.ShownAs uri) (Outline.listed doc.buckets) found)
      (hnames : (found.map Symbol.name).Nodup) : Outlined uri doc (.symbols found)

end Document

namespace Outline

variable {uri : String} {doc : Document}

theorem names_nodup {found : List Symbol} (hkeys : doc.buckets.keys.Nodup)
    (h : List.Forall₂ (Element.ShownAs uri) (listed doc.buckets) found) :
    (found.map Symbol.name).Nodup := by
  have hnames : found.map Symbol.name = (listed doc.buckets).map Prod.fst := by
    rw [eq_comm, ← List.forall₂_eq_eq_eq, List.forall₂_map_left_iff, List.forall₂_map_right_iff]
    exact h.imp fun _ _ hshown => hshown.name.symm
  rw [hnames]
  exact hkeys.sublist (names_listed doc.buckets)

theorem outlined_iff (uri : String) (hkeys : doc.buckets.keys.Nodup) (outcome : Outcome) :
    Room.outlined uri doc = outcome ↔ doc.Outlined uri outcome := by
  unfold Room.outlined ofDocument
  constructor
  · rintro rfl
    rcases spoiled_or_clean doc.buckets with
      hclean | ⟨front, name, e, rest, back, err, hbuckets, hfront, he⟩
    · obtain ⟨found, hok, hfound⟩ := ofBuckets_of_clean uri hclean
      rw [hok]
      exact .lists hclean hfound (names_nodup hkeys hfound)
    · rw [hbuckets, ofBuckets_of_spoils hfront he]
      exact .fails hbuckets hfront he
  · intro h
    cases h with
    | fails hbuckets hfront he => rw [hbuckets, ofBuckets_of_spoils hfront he]
    | @lists found hclean hfound _ =>
      obtain ⟨found', hok, hfound'⟩ := ofBuckets_of_clean uri hclean
      have hunique : Relator.RightUnique (Element.ShownAs uri) := fun _ _ _ h h' => h.unique h'
      rw [hok, List.right_unique_forall₂' hunique hfound' hfound]

end Outline

/-! ## Requests -/

/-- A task whose document is indexed ends at once, whatever else goes on in the room. -/
theorem Room.perform_of_indexed {τ : Type} [Clock τ] {room : Room τ} {task : Task τ}
    {doc : Document} (hdoc : room.index.get? task.uri = some doc)
    (hnew : ∀ entry ∈ room.finished, entry.1 ≠ task.id) :
    (room.perform task).2 = fulfilled task doc := by
  have hbegin : (room.begin task).finished = room.finished ++ [(task.id, fulfilled task doc)] := by
    obtain ⟨requests, request, hid⟩ := room.identify_eq task
    simp only [begin, hid, hdoc]
    rfl
  have hended : hasFinished task.id (room.begin task) = true := by
    simp [hasFinished, hbegin]
  have hturns : ∀ fuel, turns (hasFinished task.id) fuel (room.begin task) = room.begin task := by
    intro fuel
    cases fuel with
    | zero => rfl
    | succ fuel => simp [turns, hended]
  have hrun : room.run task = room.begin task := by
    rw [run, runUntil, hturns]
    simp [hended]
  have hfind : (room.finished ++ [(task.id, fulfilled task doc)]).find? (fun entry =>
      entry.1 == task.id) = some (task.id, fulfilled task doc) := by
    rw [List.find?_append, List.find?_eq_none.mpr (by simpa using hnew)]
    simp
  rw [perform, hrun, hbegin, hfind]
  rfl

theorem Polling.outline_of_indexed {τ : Type} [Clock τ] {answer : Nat → Option Document}
    {doc : Document} (h : answer 1 = some doc) (uri : String) (patience : Patience τ) :
    (outline answer uri patience).2 = ([], Room.outlined uri doc) := by
  unfold outline need
  rw [h]

/-- **The outline of a document is exact.** Where the document is indexed, a request for its outline
ends as it is to end and in no other way, in every room and for every map that is asked. -/
theorem outline_exact {doc : Document} (hkeys : doc.buckets.keys.Nodup) (uri : String)
    (outcome : Outcome) :
    (∀ (room : Room Seconds) (task : Task Seconds) (patience : Patience Seconds),
      room.index.get? uri = some doc → task.uri = uri → task.goal = .outline patience →
      (∀ entry ∈ room.finished, entry.1 ≠ task.id) →
      ((room.perform task).2 = outcome ↔ doc.Outlined uri outcome)) ∧
    ∀ (answer : Nat → Option Document) (patience : Patience Seconds), answer 1 = some doc →
      ((Polling.outline answer uri patience).2.2 = outcome ↔ doc.Outlined uri outcome) := by
  rw [← Outline.outlined_iff uri hkeys]
  constructor
  · rintro room task patience hdoc rfl hgoal hnew
    rw [Room.perform_of_indexed hdoc hnew, Room.fulfilled, hgoal]
  · intro answer patience hfound
    rw [Polling.outline_of_indexed hfound]

/-- A package, a bucket without elements, a variable before the first line, and a sub that is
declared twice. -/
def mixedDocument : Document where
  uri := "u"
  buckets := [("A", [{ name := "A", tag := .known .package, line := 2 }]), ("none", []),
    ("$x", [{ name := "$x", tag := .known .localVar, line := -1 }]),
    ("run", [{ name := "run", tag := .known .localSub, line := 7 },
      { name := "run", tag := .known .package, line := -1 }])]

theorem outline_exact_mixed :
    mixedDocument.buckets.keys.Nodup ∧ mixedDocument.Outlined "v" (.symbols
      [⟨"A", .package, ⟨"v", ⟨2, 0⟩, ⟨2, 100⟩⟩⟩, ⟨"run", .function, ⟨"v", ⟨7, 0⟩, ⟨7, 100⟩⟩⟩]) := by
  have hkeys : mixedDocument.buckets.keys.Nodup := by decide
  have hexact := outline_exact hkeys "v" (.symbols
    [⟨"A", .package, ⟨"v", ⟨2, 0⟩, ⟨2, 100⟩⟩⟩, ⟨"run", .function, ⟨"v", ⟨7, 0⟩, ⟨7, 100⟩⟩⟩])
  exact ⟨hkeys, (hexact.2 (fun _ => some mixedDocument) .standard rfl).mp rfl⟩

end PerlSymbols
