import PerlSymbols.Index.Polling
import PerlSymbols.Proofs.Waiting.Books
import Mathlib.Algebra.Order.Group.Basic
import Mathlib.Algebra.Order.Ring.Rat
import Mathlib.Data.List.Induction
import Mathlib.Tactic.NormNum

/-!
# Being woken and asking again

An index wakes a call when its document comes; a plain map has to be asked again and again. If
time is counted without rounding, both end in the same way for every interval, number of retries
and instant at which the document comes, the last interval included.
-/

namespace PerlSymbols

/-- Time that is counted without rounding. -/
class ExactClock (τ : Type) [AddCommGroup τ] [LinearOrder τ] extends Clock τ where
  start_eq : start = 0
  nothing_eq : nothing = 0
  add_eq (a b : τ) : add a b = a + b
  le_eq (a b : τ) : le a b = decide (a ≤ b)
  times_eq (a : τ) (n : Int) : times? a n = some (n • a)
  /-- Every duration can be shown with one decimal. -/
  shown (a : τ) : ∃ text, (toValue a).oneDecimal = .ok text

attribute [simp] ExactClock.start_eq ExactClock.nothing_eq ExactClock.add_eq ExactClock.le_eq
  ExactClock.times_eq

/-- Fractions of a second, shown as the quotient of two binary numbers. -/
instance : ExactClock ℚ where
  start := 0
  nothing := 0
  add := (· + ·)
  le a b := decide (a ≤ b)
  times? a n := some (n • a)
  toValue a := .float (Float.ofInt a.num / Float.ofNat a.den)
  start_eq := rfl
  nothing_eq := rfl
  add_eq _ _ := rfl
  le_eq _ _ := rfl
  times_eq _ _ := rfl
  shown _ := ⟨_, rfl⟩

/-- A number that is out of range cannot be shown, and that is what is wrong with it. -/
theorem Value.isInRange_eq_false_iff {v : Value} :
    v.isInRange = false ↔ v.oneDecimal = .error .tooLarge := by
  cases v with
  | int n =>
    simp only [isInRange, oneDecimal]
    cases Decimal.ofInt? n <;> simp
  | _ => simp [isInRange, oneDecimal]

@[simp]
theorem ExactClock.canPass_eq {τ : Type} [AddCommGroup τ] [LinearOrder τ] [ExactClock τ]
    (duration : τ) : Clock.canPass duration = true := by
  obtain ⟨text, htext⟩ := ExactClock.shown duration
  have hrange : (Clock.toValue duration).isInRange = true := by
    rw [← Bool.not_eq_false, Value.isInRange_eq_false_iff, htext]
    simp
  simp [Clock.canPass, hrange]

namespace Index

theorem ofDocuments_snoc (docs : List Document) (doc : Document) :
    (ofDocuments (docs ++ [doc])).docs = (ofDocuments docs).docs.put doc.uri doc := by
  simp [ofDocuments, Entries.ofList]

theorem ofDocuments_get?_last (docs : List Document) (doc : Document) :
    (ofDocuments (docs ++ [doc])).get? doc.uri = some doc := by
  rw [get?, ofDocuments_snoc, Entries.get?_put, if_pos rfl]

theorem ofDocuments_get?_eq_none {docs : List Document} {uri : String}
    (h : ∀ doc ∈ docs, doc.uri ≠ uri) : (ofDocuments docs).get? uri = none := by
  induction docs using List.reverseRecOn with
  | nil => rfl
  | append_singleton docs doc ih =>
    rw [get?, ofDocuments_snoc, Entries.get?_put, if_neg (h doc (by simp))]
    exact ih fun doc' hdoc' => h doc' (by simp [hdoc'])

end Index

/-! ## Asking again and again -/

namespace Polling

variable {τ : Type} [Clock τ]

/-- The instant after so many intervals. -/
def instantAfter (interval : τ) : Nat → τ
  | 0 => Clock.start
  | n + 1 => sleep (instantAfter interval n) interval

/-- The answers of a map that changes with time: one at the start, and one after each interval. -/
def answersOf (content : τ → Option Document) (interval : τ) (lookup : Nat) : Option Document :=
  content (instantAfter interval (lookup - 1))

/-- The clock of the polling shows the instants at which the map is asked. -/
theorem ask_now (answer : Nat → Option Document) (interval : τ) (retries asked : Nat) :
    (ask answer interval retries asked (instantAfter interval asked)).now =
      instantAfter interval
        ((ask answer interval retries asked (instantAfter interval asked)).lookups - 1) := by
  induction retries generalizing asked with
  | zero =>
    unfold ask
    cases answer (asked + 1) <;> rfl
  | succ retries ih =>
    unfold ask
    cases answer (asked + 1) with
    | some doc => rfl
    | none => exact ih (asked + 1)

theorem need_now (answer : Nat → Option Document) (uri : String) (patience : Patience τ) :
    (need answer uri patience).1.now =
      instantAfter patience.interval ((need answer uri patience).1.lookups - 1) := by
  have hask := ask_now answer patience.interval patience.retries.toNat 0
  unfold need
  split
  · rfl
  · split
    · rfl
    · dsimp only
      split <;> exact hask

theorem ask_found {answer : Nat → Option Document} (interval : τ) {retries asked k : Nat} (now : τ)
    {doc : Document} (hk : asked < k) (hlast : k ≤ asked + 1 + retries)
    (hbefore : ∀ j, asked < j → j < k → answer j = none) (hanswer : answer k = some doc) :
    (ask answer interval retries asked now).found = some doc := by
  induction retries generalizing asked now with
  | zero =>
    obtain rfl : k = asked + 1 := by omega
    unfold ask
    rw [hanswer]
  | succ retries ih =>
    unfold ask
    by_cases he : k = asked + 1
    · subst he
      rw [hanswer]
    · rw [hbefore (asked + 1) (by omega) (by omega)]
      exact ih _ (by omega) (by omega) fun j hj => hbefore j (by omega)

theorem ask_not_found {answer : Nat → Option Document} (interval : τ) {retries asked : Nat}
    (now : τ) (hnone : ∀ j, asked < j → j ≤ asked + 1 + retries → answer j = none) :
    (ask answer interval retries asked now).found = none := by
  induction retries generalizing asked now with
  | zero =>
    unfold ask
    rw [hnone (asked + 1) (by omega) (by omega)]
  | succ retries ih =>
    unfold ask
    rw [hnone (asked + 1) (by omega) (by omega)]
    exact ih _ fun j hj hle => hnone j (by omega) (by omega)

/-- What a map has under a URI whose document comes at an instant and stays. -/
def contentFrom (arrival : τ) (doc : Document) (now : τ) : Option Document :=
  if Clock.le arrival now then some doc else none

end Polling

/-! ## A call alone in a room -/

namespace Room

section Alone

variable {τ : Type} [Clock τ]

theorem turns_idle (stop : Room τ → Bool) (fuel : Nat) {room : Room τ} (h : room.queue = []) :
    turns stop fuel room = room := by
  cases fuel with
  | zero => rfl
  | succ fuel => simp [turns, h]

theorem settle_idle {room : Room τ} (h : room.queue = []) : room.settle = room :=
  turns_idle _ _ h

theorem turns_alone (fuel n : Nat) (room : Room τ) (task : Task τ) (wake : Wake τ) :
    turns (fun _ => false) (fuel + n + 1) { room with queue := [⟨task, wake, n⟩] } =
      turns (fun _ => false) fuel ({ room with queue := [] }.resume task wake) := by
  induction n with
  | zero => simp [turns, turn]
  | succ n ih =>
    rw [← ih]
    simp [turns, turn]

theorem settle_alone {room : Room τ} {task : Task τ} {wake : Wake τ} {n : Nat}
    (hqueue : room.queue = [⟨task, wake, n⟩])
    (hrest : ({ room with queue := [] }.resume task wake).queue = []) :
    room.settle = { room with queue := [] }.resume task wake := by
  have hroom : room = { room with queue := [⟨task, wake, n⟩] } := by rw [← hqueue]
  have hfuel : room.turnsLeft = (8 * room.blocked.length + 7) + n + 1 := by
    simp only [turnsLeft, hqueue, List.foldl_cons, List.foldl_nil]
    omega
  unfold settle
  rw [hfuel, hroom, turns_alone, turns_idle _ _ hrest]

theorem passTo_stop {target deadline : τ} {room : Room τ} (fuel : Nat)
    (h : room.settle.nextDeadline? = some deadline) (hle : Clock.le deadline target = true) :
    passTo target (fuel + 1) room = passTo target fuel (room.settle.moveTo deadline) := by
  simp [passTo, h, hle]

theorem passTo_last {target : τ} {room : Room τ} (fuel : Nat)
    (h : ∀ deadline, room.settle.nextDeadline? = some deadline →
      Clock.le deadline target = false) :
    passTo target (fuel + 1) room = room.settle.moveTo target := by
  unfold passTo
  cases hnext : room.settle.nextDeadline? with
  | none => simp [hnext]
  | some deadline => simp [hnext, h deadline hnext]

/-- A call on an index to which its document is published at an instant, once the call has ended. A
document that comes no later than the clock starts is there from the start. -/
def awaited (docs : List Document) (doc : Document) (arrival : τ) (call : Task τ) : Room τ :=
  if Clock.le arrival Clock.start then
    ((ofIndex (Index.ofDocuments (docs ++ [doc]))).start call).settle
  else ((((ofIndex (Index.ofDocuments docs)).start call).advance arrival).publish none doc).settle

end Alone

section Exact

variable {τ : Type} [AddCommGroup τ] [LinearOrder τ] [ExactClock τ]

/-- The call sleeps until the end of its window. -/
def sleeping (index : Index) (call : Task τ) (window now : τ) : Room τ where
  index := (index.enter call.uri).1
  now
  blocked := [⟨call, ⟨(index.enter call.uri).2, window⟩, window⟩]

variable {index : Index} {call : Task τ} {patience : Patience τ} {window t : τ} {doc : Document}

theorem queue_start (index : Index) (call : Task τ) :
    ((ofIndex index : Room τ).start call).queue = [⟨call, .begin, 0⟩] := rfl

theorem settle_served (hgoal : call.goal = .need patience)
    (hdoc : index.get? call.uri = some doc) :
    ((ofIndex index : Room τ).start call).settle.finished = [(call.id, .document (some doc))] := by
  have hbegin : (ofIndex index : Room τ).begin call =
      (ofIndex index : Room τ).finish call (.document (some doc)) := by
    simp [begin, identify, hgoal, ofIndex, hdoc, fulfilled]
  have hsettle : ((ofIndex index : Room τ).start call).settle = (ofIndex index : Room τ).begin call := by
    refine settle_alone (queue_start index call) ?_
    show ((ofIndex index : Room τ).begin call).queue = []
    rw [hbegin]
    rfl
  rw [hsettle, hbegin]
  rfl

theorem settle_started (hgoal : call.goal = .need patience)
    (hwindow : window = patience.retries • patience.interval) (hpositive : 0 < window)
    (hnone : index.get? call.uri = none) :
    ((ofIndex index : Room τ).start call).settle = sleeping index call window 0 := by
  have hbegin : (ofIndex index : Room τ).begin call = sleeping index call window 0 := by
    simp [begin, identify, hgoal, ofIndex, hnone, timeout?, Option.filter_some, enter, ← hwindow,
      sleeping, not_le.mpr hpositive, liesAhead, hpositive.le]
  refine (settle_alone (queue_start index call) ?_).trans hbegin
  show ((ofIndex index : Room τ).begin call).queue = []
  rw [hbegin]
  rfl

theorem advance_within (hgoal : call.goal = .need patience)
    (hwindow : window = patience.retries • patience.interval)
    (hnone : index.get? call.uri = none) (ht : 0 < t) (hlt : t < window) :
    ((ofIndex index : Room τ).start call).advance t = sleeping index call window t := by
  have hsettle := settle_started hgoal hwindow (ht.trans hlt) hnone
  have hpass : passTo (Clock.add 0 t) 2 ((ofIndex index : Room τ).start call) =
      sleeping index call window t := by
    rw [passTo_last 1, hsettle]
    · simp [moveTo, wakeWhere, sleeping, not_le.mpr hlt]
    · intro deadline hnext
      rw [hsettle] at hnext
      obtain rfl : window = deadline := by simpa [nextDeadline?, sleeping] using hnext
      simpa using hlt
  have hnow : ((ofIndex index : Room τ).start call).now = 0 := ExactClock.start_eq
  unfold advance
  rw [if_neg (by simpa using ht), hnow]
  exact (congrArg settle hpass).trans (settle_idle rfl)

/-- The call is given up at the end of its window. -/
theorem settle_expired (index : Index) (window : τ) (hgoal : call.goal = .need patience) :
    ((sleeping index call window 0).moveTo window).settle.queue = [] ∧
    ((sleeping index call window 0).moveTo window).settle.blocked = [] ∧
    ((sleeping index call window 0).moveTo window).settle.finished =
      [(call.id, .failed (exhausted call.uri patience window))] := by
  have hwoken : ((sleeping index call window 0).moveTo window).queue =
      [⟨call, .expired ⟨(index.enter call.uri).2, window⟩, handoffs.expired⟩] := by
    simp [sleeping, moveTo, wakeWhere]
  rw [settle_alone hwoken (by rfl)]
  simp [resume, conclude, disappointed, hgoal, leave, emit, finish, sleeping, moveTo, wakeWhere]

theorem advance_beyond (hgoal : call.goal = .need patience)
    (hwindow : window = patience.retries • patience.interval) (hpositive : 0 < window)
    (hnone : index.get? call.uri = none) (hle : window ≤ t) :
    (((ofIndex index : Room τ).start call).advance t).queue = [] ∧
    (((ofIndex index : Room τ).start call).advance t).blocked = [] ∧
    (((ofIndex index : Room τ).start call).advance t).finished =
      [(call.id, .failed (exhausted call.uri patience window))] := by
  have hsettle := settle_started hgoal hwindow hpositive hnone
  obtain ⟨hqueue, hblocked, hfinished⟩ := settle_expired index window hgoal
  have hpass : passTo (Clock.add 0 t) 2 ((ofIndex index : Room τ).start call) =
      ((sleeping index call window 0).moveTo window).settle.moveTo t := by
    have hnext : ((ofIndex index : Room τ).start call).settle.nextDeadline? = some window := by
      simp [hsettle, nextDeadline?, sleeping]
    rw [passTo_stop 1 hnext (by simpa using hle), hsettle, passTo_last 0]
    · simp
    · simp [nextDeadline?, hblocked]
  generalize ((sleeping index call window 0).moveTo window).settle = ended at *
  have hidle : (ended.moveTo t).queue = [] := by simp [moveTo, wakeWhere, hqueue, hblocked]
  have hnow : ((ofIndex index : Room τ).start call).now = 0 := ExactClock.start_eq
  have hadvance : ((ofIndex index : Room τ).start call).advance t = ended.moveTo t := by
    unfold advance
    rw [if_neg (by simpa using hpositive.trans_le hle), hnow]
    exact (congrArg settle hpass).trans (settle_idle hidle)
  rw [hadvance]
  exact ⟨hidle, by simp [moveTo, wakeWhere, hblocked], hfinished⟩

theorem publish_sleeping (hgoal : call.goal = .need patience) (huri : doc.uri = call.uri) :
    ((sleeping index call window t).publish none doc).settle.finished =
      [(call.id, .document (some doc))] := by
  have hready : (index.enter call.uri).1.ready.get? call.uri = some (index.enter call.uri).2 := by
    rw [Index.enter_ready, if_pos rfl]
  have hwoken : ((sleeping index call window t).publish none doc).queue =
      [⟨call, .published ⟨(index.enter call.uri).2, window⟩, handoffs.published⟩] := by
    simp [sleeping, publish, wakeWhere, emit, Index.publish, huri, hready]
  have hdoc : ((sleeping index call window t).publish none doc).index.get? call.uri = some doc := by
    show ((index.enter call.uri).1.publish doc).1.get? call.uri = some doc
    rw [Index.publish_get?, if_pos huri]
  have hfinished : ((sleeping index call window t).publish none doc).finished = [] := rfl
  rw [settle_alone hwoken]
  · simp [resume, conclude, hdoc, fulfilled, hgoal, leave, finish, hfinished]
  · simp [resume, conclude, hdoc, leave, finish]

/-- A publication that nobody waits for ends no task. -/
theorem publish_deserted {room : Room τ} (hqueue : room.queue = []) (hblocked : room.blocked = []) :
    (room.publish none doc).settle.finished = room.finished := by
  have hidle : (room.publish none doc).queue = [] := by
    simp [publish, wakeWhere, emit, hqueue, hblocked]
  rw [settle_idle hidle]
  rfl

end Exact

end Room

/-! ## The two strategies -/

section Strategies

variable {τ : Type} [AddCommGroup τ] [LinearOrder τ] [ExactClock τ] {patience : Patience τ} {t : τ}

open Room Polling

theorem instantAfter_eq (hinterval : 0 < patience.interval) (n : Nat) :
    instantAfter patience.interval n = n • patience.interval := by
  induction n with
  | zero => simp [instantAfter]
  | succ n ih => simp [instantAfter, Polling.sleep, ih, succ_nsmul, not_le.mpr hinterval]

theorem answersOf_contentFrom (hinterval : 0 < patience.interval) (t : τ) (doc : Document) (n : Nat) :
    answersOf (contentFrom t doc) patience.interval (n + 1) =
      if t ≤ n • patience.interval then some doc else none := by
  simp [answersOf, contentFrom, instantAfter_eq hinterval]

theorem window?_eq (patience : Patience τ) :
    window? patience = some (patience.retries • patience.interval) := by
  simp [window?]

omit [LinearOrder τ] [ExactClock τ] in
theorem window_eq (hretries : 1 ≤ patience.retries) :
    patience.retries • patience.interval = patience.retries.toNat • patience.interval := by
  rw [← natCast_zsmul, Int.toNat_of_nonneg (by omega)]

theorem awaited_in_time (docs : List Document) {doc : Document} {call : Task τ}
    (hgoal : call.goal = .need patience) (huri : doc.uri = call.uri)
    (hothers : ∀ other ∈ docs, other.uri ≠ doc.uri) (hlt : t < patience.retries • patience.interval) :
    (awaited docs doc t call).finished = [(call.id, .document (some doc))] := by
  unfold awaited
  split
  · exact settle_served hgoal (huri ▸ Index.ofDocuments_get?_last docs doc)
  · next hlate =>
    have ht : 0 < t := by simpa using hlate
    rw [advance_within hgoal rfl (Index.ofDocuments_get?_eq_none (huri ▸ hothers)) ht hlt]
    exact publish_sleeping hgoal huri

theorem awaited_too_late (docs : List Document) {doc : Document} {call : Task τ}
    (hgoal : call.goal = .need patience) (huri : doc.uri = call.uri)
    (hothers : ∀ other ∈ docs, other.uri ≠ doc.uri)
    (hpositive : 0 < patience.retries • patience.interval)
    (hlt : patience.retries • patience.interval < t) :
    (awaited docs doc t call).finished =
      [(call.id, .failed (exhausted call.uri patience (patience.retries • patience.interval)))] := by
  have ht : ¬ Clock.le t Clock.start = true := by simpa using hpositive.trans hlt
  obtain ⟨hqueue, hblocked, hfinished⟩ := advance_beyond hgoal rfl hpositive
    (Index.ofDocuments_get?_eq_none (huri ▸ hothers)) hlt.le
  unfold awaited
  rw [if_neg ht, publish_deserted hqueue hblocked, hfinished]

theorem polled_in_time (hinterval : 0 < patience.interval) (hretries : 1 ≤ patience.retries)
    (doc : Document) (uri : String) (hlt : t < patience.retries • patience.interval) :
    (need (answersOf (contentFrom t doc) patience.interval) uri patience).2.2 = .ok doc := by
  have hanswer := answersOf_contentFrom hinterval t doc
  by_cases ht : t ≤ 0
  · simp [need, hanswer 0, ht]
  · -- The first lookup that is made when the document is there.
    have hsome : ∃ n : Nat, t ≤ n • patience.interval :=
      ⟨patience.retries.toNat, window_eq hretries ▸ hlt.le⟩
    classical
    have hleast : ∀ n, n < Nat.find hsome → ¬ t ≤ n • patience.interval :=
      fun n => Nat.find_min hsome
    have hlast : Nat.find hsome ≤ patience.retries.toNat :=
      Nat.find_min' hsome (window_eq hretries ▸ hlt.le)
    have hbefore : ∀ j, 0 < j → j < Nat.find hsome + 1 →
        answersOf (contentFrom t doc) patience.interval j = none := by
      intro j hj hjk
      obtain ⟨n, rfl⟩ : ∃ n, j = n + 1 := ⟨j - 1, by omega⟩
      rw [hanswer, if_neg (hleast n (by omega))]
    have hthere : answersOf (contentFrom t doc) patience.interval (Nat.find hsome + 1) =
        some doc := by
      rw [hanswer, if_pos (Nat.find_spec hsome)]
    have hreach : Nat.find hsome + 1 ≤ 0 + 1 + patience.retries.toNat := by omega
    have hfound := ask_found patience.interval (0 : τ) (Nat.succ_pos _) hreach hbefore hthere
    simp [need, window?_eq, hanswer 0, ht, hfound]

theorem polled_too_late [IsOrderedAddMonoid τ] (hinterval : 0 < patience.interval) (hretries : 1 ≤ patience.retries)
    (doc : Document) (uri : String) (hlt : patience.retries • patience.interval < t) :
    (need (answersOf (contentFrom t doc) patience.interval) uri patience).2.2 =
      .error (exhausted uri patience (patience.retries • patience.interval)) := by
  have hanswer := answersOf_contentFrom hinterval t doc
  have hnone : ∀ j, 0 < j → j ≤ 0 + 1 + patience.retries.toNat →
      answersOf (contentFrom t doc) patience.interval j = none := by
    intro j hj hle
    obtain ⟨n, rfl⟩ : ∃ n, j = n + 1 := ⟨j - 1, by omega⟩
    rw [hanswer, if_neg]
    rw [window_eq hretries] at hlt
    exact not_le.mpr (lt_of_le_of_lt (nsmul_le_nsmul_left hinterval.le (by omega)) hlt)
  have hfound := ask_not_found patience.interval (0 : τ) hnone
  simp [need, window?_eq, hnone 1, hfound]

/-- **The two strategies agree.** A document that comes before the end of the window is returned by
both; otherwise both fail, and with the same error. The map is asked at the instants that the clock
of the polling shows. -/
theorem strategies_agree [IsOrderedAddMonoid τ] (docs : List Document) (doc : Document) (id : String)
    (request : Option String) (hinterval : 0 < patience.interval) (hretries : 1 ≤ patience.retries)
    (hothers : ∀ other ∈ docs, other.uri ≠ doc.uri)
    (harrival : t ≠ patience.retries • patience.interval) :
    let woken := awaited docs doc t ⟨id, doc.uri, .need patience, request⟩
    let polled := need (answersOf (contentFrom t doc) patience.interval) doc.uri patience
    ((t < patience.retries • patience.interval ∧
        woken.finished = [(id, .document (some doc))] ∧ polled.2.2 = .ok doc) ∨
      (patience.retries • patience.interval < t ∧ ∃ problem,
        Problem.notIndexed doc.uri (.int patience.retries)
          (Clock.toValue (patience.retries • patience.interval)) = .ok problem ∧
        woken.finished = [(id, .failed (.notIndexed problem))] ∧
        polled.2.2 = .error (.notIndexed problem))) ∧
    polled.1.now = instantAfter patience.interval (polled.1.lookups - 1) := by
  intro woken polled
  refine ⟨?_, need_now ..⟩
  rcases lt_or_gt_of_ne harrival with hlt | hlt
  · exact Or.inl ⟨hlt, awaited_in_time docs rfl rfl hothers hlt,
      polled_in_time hinterval hretries doc doc.uri hlt⟩
  · have hwoken : woken.finished = _ :=
      awaited_too_late docs rfl rfl hothers (zsmul_pos hinterval (by omega)) hlt
    have hpolled : polled.2.2 = _ := polled_too_late hinterval hretries doc doc.uri hlt
    obtain ⟨text, htext⟩ := ExactClock.shown (patience.retries • patience.interval)
    obtain ⟨problem, hproblem⟩ : ∃ problem, Problem.notIndexed doc.uri (.int patience.retries)
        (Clock.toValue (patience.retries • patience.interval)) = .ok problem := by
      unfold Problem.notIndexed
      rw [htext]
      exact ⟨_, rfl⟩
    have hexhausted : exhausted doc.uri patience (patience.retries • patience.interval) =
        .notIndexed problem := by
      unfold exhausted
      rw [hproblem]
    rw [hexhausted] at hwoken hpolled
    exact Or.inr ⟨hlt, problem, hproblem, hwoken, hpolled⟩

/-- Three looks, a tenth of a second apart: a document that comes in the last interval is had by
both, and one that comes half an interval later by neither. -/
theorem strategies_agree_last_interval :
    let patience : Patience ℚ := ⟨1 / 10, 3⟩
    let doc : Document := { uri := "file:///A.pm" }
    let call : Task ℚ := ⟨"a", "file:///A.pm", .need patience, none⟩
    let woken := fun t => awaited [{ uri := "file:///B.pm" }] doc t call
    let polled := fun t => need (answersOf (contentFrom t doc) patience.interval) doc.uri patience
    ((woken (1 / 4)).finished = [("a", .document (some doc))] ∧ (polled (1 / 4)).2.2 = .ok doc) ∧
    ∃ problem, (woken (7 / 20)).finished = [("a", .failed (.notIndexed problem))] ∧
      (polled (7 / 20)).2.2 = .error (.notIndexed problem) := by
  intro patience doc call woken polled
  have hwindow : patience.retries • patience.interval = 3 / 10 := by norm_num [patience]
  have hagree := fun t harrival => (strategies_agree (t := t) [{ uri := "file:///B.pm" }] doc "a" none
    (show 0 < patience.interval by norm_num [patience]) (show 1 ≤ patience.retries by decide)
    (by simp [doc]) harrival).1
  constructor
  · rcases hagree (1 / 4) (by rw [hwindow]; norm_num) with h | h
    · exact h.2
    · rw [hwindow] at h
      norm_num at h
  · rcases hagree (7 / 20) (by rw [hwindow]; norm_num) with h | h
    · rw [hwindow] at h
      norm_num at h
    · obtain ⟨-, problem, -, hends⟩ := h
      exact ⟨problem, hends⟩

end Strategies

end PerlSymbols
