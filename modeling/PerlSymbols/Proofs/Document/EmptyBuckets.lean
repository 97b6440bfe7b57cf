import PerlSymbols.Hover
import PerlSymbols.Index.Polling
import PerlSymbols.Proofs.Waiting.Foreground

/-!
# Empty buckets

A bucket without elements is as good as none. Every reader of a document gets the same answer, with
the same log records and the same requests for other documents, whether such buckets are there or
not. All of them see a document through three things: the candidates of a symbol, the buckets that
are filled, in order, and the two maps beside the buckets.
-/

namespace PerlSymbols

namespace Entries

variable {κ α : Type} [DecidableEq κ]

theorem put_of_get?_eq_none {m : Entries κ α} {k : κ} (h : m.get? k = none) (a : α) :
    m.put k a = m ++ [(k, a)] := by
  induction m with
  | nil => rfl
  | cons entry rest ih =>
    obtain ⟨j, b⟩ := entry
    by_cases hj : j = k
    · simp [get?, hj] at h
    · simp only [get?, hj, if_false] at h
      simp [put, hj, ih h]

/-- Values are looked up the same before and after each is changed. -/
theorem get?_map {β : Type} (m : Entries κ α) (f : κ → α → β) (k : κ) :
    get? (m.map fun entry => (entry.1, f entry.1 entry.2)) k = (m.get? k).map (f k) := by
  induction m with
  | nil => rfl
  | cons entry rest ih =>
    obtain ⟨j, b⟩ := entry
    by_cases hj : j = k
    · subst hj
      simp [get?]
    · simp [get?, hj, ih]

end Entries

namespace Document

/-- Empty buckets under names that have none. -/
def addEmptyBuckets (doc : Document) (names : List String) : Document :=
  names.foldl addEmptyBucket doc

/-- The buckets with elements in them, in order. -/
def filled (doc : Document) : Entries String (List Element) :=
  doc.buckets.filter fun entry => !entry.2.isEmpty

/-- The documents differ in empty buckets at most. -/
structure Alike (doc doc' : Document) : Prop where
  candidates : ∀ symbol, doc'.candidates symbol = doc.candidates symbol
  filled : doc'.filled = doc.filled
  canonical : doc'.canonical = doc.canonical
  parents : doc'.parents = doc.parents

theorem Alike.refl (doc : Document) : Alike doc doc :=
  ⟨fun _ => rfl, rfl, rfl, rfl⟩

theorem Alike.trans {doc doc' doc'' : Document} (h : Alike doc doc') (h' : Alike doc' doc'') :
    Alike doc doc'' where
  candidates symbol := (h'.candidates symbol).trans (h.candidates symbol)
  filled := h'.filled.trans h.filled
  canonical := h'.canonical.trans h.canonical
  parents := h'.parents.trans h.parents

/-! ## Storing them -/

theorem addEmptyBucket_of_none {doc : Document} {name : String}
    (h : doc.buckets.get? name = none) :
    doc.addEmptyBucket name = { doc with buckets := doc.buckets ++ [(name, [])] } := by
  simp [addEmptyBucket, Entries.contains, h, Entries.put_of_get?_eq_none h]

theorem addEmptyBucket_of_some {doc : Document} {name : String} {bucket : List Element}
    (h : doc.buckets.get? name = some bucket) : doc.addEmptyBucket name = doc := by
  simp [addEmptyBucket, Entries.contains, h]

theorem get?_addEmptyBucket (doc : Document) (name symbol : String) :
    (doc.addEmptyBucket name).buckets.get? symbol =
      if name = symbol then some (doc.candidates name) else doc.buckets.get? symbol := by
  cases h : doc.buckets.get? name with
  | none =>
    simp only [addEmptyBucket, Entries.contains, h, Option.isSome_none, Bool.false_eq_true,
      if_false, Entries.get?_put, candidates, Option.getD_none]
  | some bucket =>
    rw [addEmptyBucket_of_some h]
    split
    · next he => rw [← he, h, candidates, h, Option.getD_some]
    · rfl

theorem alike_addEmptyBucket (doc : Document) (name : String) :
    Alike doc (doc.addEmptyBucket name) := by
  cases h : doc.buckets.get? name with
  | some bucket =>
    rw [addEmptyBucket_of_some h]
    exact Alike.refl doc
  | none =>
    refine ⟨?_, ?_, ?_, ?_⟩
    · intro symbol
      rw [candidates, get?_addEmptyBucket]
      split
      · next he => rw [Option.getD_some, he]
      · rfl
    all_goals rw [addEmptyBucket_of_none h]
    simp [Document.filled]

theorem addEmptyBuckets_cons (doc : Document) (name : String) (names : List String) :
    doc.addEmptyBuckets (name :: names) = (doc.addEmptyBucket name).addEmptyBuckets names :=
  rfl

theorem alike_addEmptyBuckets (doc : Document) (names : List String) :
    Alike doc (doc.addEmptyBuckets names) := by
  induction names generalizing doc with
  | nil => exact Alike.refl doc
  | cons name names ih =>
    rw [addEmptyBuckets_cons]
    exact (alike_addEmptyBucket doc name).trans (ih _)

/-- The buckets are really there. -/
theorem get?_addEmptyBuckets_of_mem {names : List String} {name : String} (h : name ∈ names)
    (doc : Document) :
    (doc.addEmptyBuckets names).buckets.get? name = some (doc.candidates name) := by
  -- Once a bucket is there, no other name takes it away.
  have hkeep : ∀ (others : List String) (doc : Document) (bucket : List Element),
      doc.buckets.get? name = some bucket →
      (doc.addEmptyBuckets others).buckets.get? name = some bucket := by
    intro others
    induction others with
    | nil => exact fun _ _ h => h
    | cons other others ih =>
      intro doc bucket hbucket
      rw [addEmptyBuckets_cons]
      apply ih
      rw [get?_addEmptyBucket]
      split
      · next he => rw [he, candidates, hbucket, Option.getD_some]
      · exact hbucket
  induction names generalizing doc with
  | nil => cases h
  | cons first names ih =>
    rcases List.mem_cons.mp h with rfl | h
    · rw [addEmptyBuckets_cons]
      apply hkeep
      rw [get?_addEmptyBucket, if_pos rfl]
    · rw [addEmptyBuckets_cons, ← (alike_addEmptyBucket doc first).candidates]
      exact ih h _

end Document

/-- A loader whose documents have some more empty buckets, for each URI its own. -/
def Loader.addEmptyBuckets (loader : Loader) (names : String → List String) : Loader :=
  fun uri => (loader uri).map fun doc => doc.addEmptyBuckets (names uri)

/-- An index whose documents have some more empty buckets. -/
def Index.addEmptyBuckets (index : Index) (names : String → List String) : Index :=
  { index with
    docs := index.docs.map fun entry => (entry.1, entry.2.addEmptyBuckets (names entry.1)) }

theorem Index.get?_addEmptyBuckets (index : Index) (names : String → List String) (uri : String) :
    (index.addEmptyBuckets names).get? uri =
      (index.get? uri).map fun doc => doc.addEmptyBuckets (names uri) :=
  Entries.get?_map index.docs (fun uri doc => doc.addEmptyBuckets (names uri)) uri

/-! ## The readers of one document -/

section Readers

variable {doc doc' : Document} (h : Document.Alike doc doc')

include h

namespace Lookup

theorem parentOf_alike (invocant : String) (line : Int) :
    parentOf doc' invocant line = parentOf doc invocant line := by
  simp only [parentOf, h.candidates, h.parents]

theorem qualified_alike (symbol : List Char) (line : Int) :
    qualified doc' symbol line = qualified doc symbol line := by
  simp only [qualified, qualifySuper, qualifyObject, parentOf_alike h, h.canonical]

omit h in
/-- An empty bucket has no first element, so it does not count for its name. -/
theorem anyWithMethod_eq (doc : Document) (method : List Char) :
    anyWithMethod doc method = doc.filled.filterMap fun (name, bucket) =>
      if baseName name.toList = method then bucket.head? else none := by
  rw [anyWithMethod, Document.filled, List.filterMap_filter]
  congr 1
  funext ⟨name, bucket⟩
  cases bucket <;> simp

theorem qualifiedCandidates_alike (symbol qualified : List Char) :
    qualifiedCandidates doc' symbol qualified = qualifiedCandidates doc symbol qualified := by
  simp only [qualifiedCandidates, h.candidates, anyWithMethod_eq, h.filled]

end Lookup

theorem lookup_alike (modules : ModuleMap) (symbol : String) (line : Int) :
    lookup doc' modules symbol line = lookup doc modules symbol line := by
  simp only [lookup, h.candidates, Lookup.qualified_alike h, Lookup.qualifiedCandidates_alike h]

theorem resolve_alike (modules : ModuleMap) (symbol : String) (line : Int) :
    resolve doc' modules symbol line = resolve doc modules symbol line := by
  simp only [resolve, h.canonical, lookup_alike h]

theorem Refine.inDocument?_alike (names : List String) :
    Refine.inDocument? doc' names = Refine.inDocument? doc names := by
  simp only [Refine.inDocument?, h.candidates]

omit h in
/-- An empty bucket makes no entry. -/
theorem Outline.ofDocument_eq (uri : String) (doc : Document) :
    Outline.ofDocument uri doc = Outline.ofBuckets uri doc.filled := by
  rw [Outline.ofDocument, Document.filled]
  induction doc.buckets with
  | nil => rfl
  | cons entry rest ih =>
    obtain ⟨name, bucket⟩ := entry
    cases bucket with
    | nil =>
      rw [Outline.ofBuckets, ih, List.filter_cons_of_neg (by simp)]
      cases Outline.ofBuckets uri (rest.filter fun entry => !entry.2.isEmpty) <;> rfl
    | cons e bucket =>
      rw [List.filter_cons_of_pos (by simp), Outline.ofBuckets, Outline.ofBuckets, ih]

theorem Outline.ofDocument_alike (uri : String) :
    Outline.ofDocument uri doc' = Outline.ofDocument uri doc := by
  rw [Outline.ofDocument_eq, Outline.ofDocument_eq, h.filled]

theorem Room.outlined_alike (uri : String) : Room.outlined uri doc' = Room.outlined uri doc := by
  rw [Room.outlined, Room.outlined, Outline.ofDocument_alike h]

end Readers

/-! ## The readers of several documents -/

theorem Refine.fromDefining_addEmptyBuckets (e : Element) (requestUri : String)
    (loader : Option Loader) (names : String → List String) :
    fromDefining e requestUri (loader.map (Loader.addEmptyBuckets · names)) =
      fromDefining e requestUri loader := by
  cases loader with
  | none => rfl
  | some loader =>
    simp only [fromDefining, Option.map_some, Loader.addEmptyBuckets]
    cases loader e.uri with
    | none => rfl
    | some defining =>
      simp only [Option.map_some, inDocument?_alike (defining.alike_addEmptyBuckets (names e.uri))]

section Loading

variable {doc doc' : Document} (h : Document.Alike doc doc') (requestUri : String)
  (loader : Option Loader) (names : String → List String)

include h

theorem refine_alike (e : Element) :
    refine e doc' requestUri (loader.map (Loader.addEmptyBuckets · names)) =
      refine e doc requestUri loader := by
  simp only [refine, h.candidates, Refine.fromDefining_addEmptyBuckets]

theorem hover_alike (position : Position) (text : String) (modules : ModuleMap) :
    hover requestUri position doc' text modules (loader.map (Loader.addEmptyBuckets · names)) =
      hover requestUri position doc text modules loader := by
  simp only [hover, resolve_alike h, refine_alike h]

end Loading

/-! ## Waiting for a document to list its symbols -/

section Waiting

variable {τ : Type} [Clock τ]

/-- Polling goes by what is read off the documents that are found. -/
theorem Polling.ask_congr {β : Type} {answer answer' : Nat → Option Document} {read : Document → β}
    (h : ∀ n, (answer' n).map read = (answer n).map read) (interval : τ) (retries asked : Nat)
    (now : τ) :
    (ask answer' interval retries asked now).lookups =
        (ask answer interval retries asked now).lookups ∧
      (ask answer' interval retries asked now).found.map read =
        (ask answer interval retries asked now).found.map read := by
  induction retries generalizing asked now with
  | zero =>
    unfold ask
    match answer (asked + 1), answer' (asked + 1), h (asked + 1) with
    | none, none, _ => exact ⟨rfl, rfl⟩
    | some _, some _, hread => exact ⟨rfl, hread⟩
  | succ retries ih =>
    unfold ask
    match answer (asked + 1), answer' (asked + 1), h (asked + 1) with
    | none, none, _ => exact ih (asked + 1) (sleep now interval)
    | some _, some _, hread => exact ⟨rfl, hread⟩

theorem Polling.outline_congr {answer answer' : Nat → Option Document} {uri : String}
    (h : ∀ n, (answer' n).map (Room.outlined uri) = (answer n).map (Room.outlined uri))
    (patience : Patience τ) :
    (outline answer' uri patience).2 = (outline answer uri patience).2 := by
  have hask := ask_congr h patience.interval patience.retries.toNat 0 Clock.start
  unfold outline need
  match answer 1, answer' 1, h 1 with
  | some _, some _, hread => simpa using hread
  | none, none, _ =>
    dsimp only
    cases window? patience with
    | none => rfl
    | some waited =>
      dsimp only
      rw [hask.1]
      match (ask answer patience.interval patience.retries.toNat 0 Clock.start).found,
        (ask answer' patience.interval patience.retries.toNat 0 Clock.start).found, hask.2 with
      | none, none, _ => rfl
      | some _, some _, hread => simpa using hread

theorem Polling.outline_addEmptyBuckets (answer : Nat → Option Document)
    (names : Nat → List String) (uri : String) (patience : Patience τ) :
    (outline (fun n => (answer n).map (·.addEmptyBuckets (names n))) uri patience).2 =
      (outline answer uri patience).2 := by
  apply outline_congr
  intro n
  rw [Option.map_map]
  congr 1
  funext doc
  exact Room.outlined_alike (doc.alike_addEmptyBuckets (names n)) uri

theorem Room.knows_ofIndex (id : String) (index : Index) : Knows id (ofIndex index : Room τ) := by
  constructor <;> simp [ofIndex]

end Waiting

/-- A request for the outline of a document, in a room where nobody else waits. -/
def Room.outlineOf (index : Index) (uri : String) (patience : Patience Seconds) : Outcome :=
  ((ofIndex index).perform ⟨"", uri, .outline patience, none⟩).2

theorem Room.outlineOf_congr {index index' : Index} {uri : String}
    (h : (index'.get? uri).map (outlined uri) = (index.get? uri).map (outlined uri))
    (patience : Patience Seconds) :
    outlineOf index' uri patience = outlineOf index uri patience := by
  rw [outlineOf, outlineOf, perform_outcome Seconds.orders (knows_ofIndex ..),
    perform_outcome Seconds.orders (knows_ofIndex ..)]
  unfold foreseen
  dsimp only [ofIndex]
  match index.get? uri, index'.get? uri, h with
  | none, none, _ => rfl
  | some _, some _, hread => exact Option.some.inj hread

theorem Room.outlineOf_addEmptyBuckets (index : Index) (names : String → List String)
    (uri : String) (patience : Patience Seconds) :
    outlineOf (index.addEmptyBuckets names) uri patience = outlineOf index uri patience := by
  apply outlineOf_congr
  rw [Index.get?_addEmptyBuckets, Option.map_map]
  congr 1
  funext doc
  exact outlined_alike (doc.alike_addEmptyBuckets (names uri)) uri

/-! ## The theorem -/

/-- **Empty buckets go unnoticed.** Whatever names they are stored under, in the document itself and
in those that are loaded, every reader has the same answer, with the same steps on the way. -/
theorem empty_buckets_unnoticed (doc : Document) (names : List String) (loader : Option Loader)
    (index : Index) (answer : Nat → Option Document) (elsewhere : String → List String)
    (later : Nat → List String) :
    (∀ name ∈ names, doc.buckets.get? name = none →
      (doc.addEmptyBuckets names).buckets.get? name = some []) ∧
    (∀ modules symbol line,
      lookup (doc.addEmptyBuckets names) modules symbol line = lookup doc modules symbol line ∧
      resolve (doc.addEmptyBuckets names) modules symbol line = resolve doc modules symbol line) ∧
    (∀ e requestUri,
      refine e (doc.addEmptyBuckets names) requestUri
          (loader.map (Loader.addEmptyBuckets · elsewhere)) =
        refine e doc requestUri loader) ∧
    (∀ requestUri position text modules,
      hover requestUri position (doc.addEmptyBuckets names) text modules
          (loader.map (Loader.addEmptyBuckets · elsewhere)) =
        hover requestUri position doc text modules loader) ∧
    (∀ uri, Outline.ofDocument uri (doc.addEmptyBuckets names) = Outline.ofDocument uri doc) ∧
    (∀ uri (patience : Patience Seconds),
      (Polling.outline (fun n => (answer n).map (·.addEmptyBuckets (later n))) uri patience).2 =
        (Polling.outline answer uri patience).2 ∧
      Room.outlineOf (index.addEmptyBuckets elsewhere) uri patience =
        Room.outlineOf index uri patience) := by
  have halike := doc.alike_addEmptyBuckets names
  refine ⟨?_, ?_, ?_, ?_, ?_, ?_⟩
  · intro name hname habsent
    rw [Document.get?_addEmptyBuckets_of_mem hname, Document.candidates, habsent, Option.getD_none]
  · intro modules symbol line
    exact ⟨lookup_alike halike modules symbol line, resolve_alike halike modules symbol line⟩
  · intro e requestUri
    exact refine_alike halike requestUri loader elsewhere e
  · intro requestUri position text modules
    exact hover_alike halike requestUri loader elsewhere position text modules
  · intro uri
    exact Outline.ofDocument_alike halike uri
  · intro uri patience
    exact ⟨Polling.outline_addEmptyBuckets answer later uri patience,
      Room.outlineOf_addEmptyBuckets index elsewhere uri patience⟩

/-- A method of one package only, which any object may have. -/
def lonelyMethod : Element :=
  { name := "A::m", tag := .known .localSub }

def lonelyDocument : Document :=
  { uri := "u", buckets := [("A::m", [lonelyMethod])] }

/-- The method is still found when its bare name and the symbol itself have empty buckets. -/
theorem empty_buckets_unnoticed_method :
    lonelyDocument.buckets.get? "m" = none ∧
    (lonelyDocument.addEmptyBuckets ["$x->m", "m"]).buckets.get? "m" = some [] ∧
    lookup (lonelyDocument.addEmptyBuckets ["$x->m", "m"]) [] "$x->m" 0 =
      .ok [lonelyMethod] := by
  have habsent : lonelyDocument.buckets.get? "m" = none := by decide
  have hfound : lookup lonelyDocument [] "$x->m" 0 = .ok [lonelyMethod] := rfl
  obtain ⟨hstored, hlookup, -⟩ := empty_buckets_unnoticed lonelyDocument ["$x->m", "m"] none {}
    (fun _ => none) (fun _ => []) (fun _ => [])
  exact ⟨habsent, hstored "m" (by decide) habsent, (hlookup [] "$x->m" 0).1.trans hfound⟩

end PerlSymbols
