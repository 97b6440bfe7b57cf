import PerlSymbols.Proofs.Waiting.Overtaking
import PerlSymbols.Proofs.Waiting.Runs

/-!
# What a URI sees of a room

Of all that happens in a room, a URI sees its document, whether it has a signal, how many wait for
it, and its own tasks. A signal has no number for it: a ticket is for the current signal or for an
old one. What a URI sees is a machine of its own, the desk of the URI, and everything that happens
in the room either happens at the desk too or does not change it.
-/

namespace PerlSymbols

variable {τ : Type}

/-! ## Tickets and tasks -/

/-- A ticket for the current signal has number one, and one for an old signal has number zero. -/
def Ticket.seen (ready : Option Nat) (ticket : Ticket τ) : Ticket τ :=
  { ticket with signal := if ready = some ticket.signal then 1 else 0 }

def Wake.seen (ready : Option Nat) : Wake τ → Wake τ
  | .begin => .begin
  | .abandoned => .abandoned
  | .published ticket => .published (ticket.seen ready)
  | .expired ticket => .expired (ticket.seen ready)
  | .cancelled ticket => .cancelled (ticket.seen ready)

/-- The request that a task belongs to does not show. -/
def Task.seen (task : Task τ) : Task τ :=
  { task with request := none }

def Runnable.seen (ready : Option Nat) (r : Runnable τ) : Runnable τ :=
  ⟨r.task.seen, r.wake.seen ready, r.handoffs⟩

def Blocked.seen (ready : Option Nat) (b : Blocked τ) : Blocked τ :=
  ⟨b.task.seen, b.ticket.seen ready, b.deadline⟩

@[simp]
theorem Ticket.seen_signal (ready : Option Nat) (ticket : Ticket τ) :
    (ticket.seen ready).signal = 1 ↔ ready = some ticket.signal := by
  unfold Ticket.seen
  split <;> simp_all

@[simp]
theorem Ticket.seen_seen (ready : Option Nat) (ticket : Ticket τ) :
    (ticket.seen ready).seen none = ticket.seen none := by
  simp [Ticket.seen]

@[simp]
theorem Wake.seen_seen (ready : Option Nat) (wake : Wake τ) :
    (wake.seen ready).seen none = wake.seen none := by
  cases wake <;> simp [Wake.seen]

@[simp]
theorem Task.seen_id (task : Task τ) : task.seen.id = task.id := rfl

@[simp]
theorem Task.seen_goal (task : Task τ) : task.seen.goal = task.goal := rfl

@[simp]
theorem Task.seen_seen (task : Task τ) : task.seen.seen = task.seen := rfl

theorem Ticket.seen_congr {ready ready' : Option Nat} {ticket : Ticket τ}
    (h : ready = some ticket.signal ↔ ready' = some ticket.signal) :
    ticket.seen ready = ticket.seen ready' := by
  simp [Ticket.seen, h]

/-- What is seen of a task that can run depends on its own signal only. -/
theorem Runnable.seen_congr {ready ready' : Option Nat} {r : Runnable τ}
    (h : ∀ seat, r.seat? = some seat → (ready = some seat.signal ↔ ready' = some seat.signal)) :
    r.seen ready = r.seen ready' := by
  obtain ⟨task, wake, n⟩ := r
  cases wake with
  | begin | abandoned => rfl
  | published ticket | expired ticket | cancelled ticket =>
    simp only [Runnable.seen, Wake.seen]
    rw [Ticket.seen_congr (h _ rfl)]

theorem Blocked.seen_congr {ready ready' : Option Nat} {b : Blocked τ}
    (h : ready = some b.seat.signal ↔ ready' = some b.seat.signal) :
    b.seen ready = b.seen ready' := by
  simp only [Blocked.seen]
  rw [Ticket.seen_congr h]

@[simp]
theorem Runnable.seen_task (ready : Option Nat) (r : Runnable τ) :
    (r.seen ready).task = r.task.seen := rfl

@[simp]
theorem Runnable.seen_seen (ready : Option Nat) (r : Runnable τ) :
    (r.seen ready).seen none = r.seen none := by
  simp [Runnable.seen]

@[simp]
theorem Blocked.seen_seen (ready : Option Nat) (b : Blocked τ) :
    (b.seen ready).seen none = b.seen none := by
  simp [Blocked.seen]

theorem Runnable.uri_of_seat? {r : Runnable τ} {seat : Seat} (h : r.seat? = some seat) :
    seat.uri = r.task.uri := by
  obtain ⟨ticket, -, rfl⟩ := Option.map_eq_some_iff.mp h
  rfl

/-! ## The desk -/

structure Desk (τ : Type) where
  doc : Option Document
  /-- The URI has a signal. -/
  ready : Bool
  waiting : Option Nat
  queue : List (Runnable τ)
  blocked : List (Blocked τ)
  finished : List (String × Outcome)

namespace Desk

open Room

variable [Clock τ]

def finish (desk : Desk τ) (task : Task τ) (outcome : Outcome) : Desk τ :=
  { desk with finished := desk.finished ++ [(task.id, outcome)] }

/-- The current signal becomes an old one. -/
def silence (desk : Desk τ) : Desk τ :=
  { desk with
    ready := false
    queue := desk.queue.map (Runnable.seen none)
    blocked := desk.blocked.map (Blocked.seen none) }

def enter (desk : Desk τ) (now : τ) (task : Task τ) (timeout : τ) : Desk τ :=
  let desk := { desk with ready := true, waiting := some (desk.waiting.getD 0 + 1) }
  let deadline := Clock.add now timeout
  if Clock.le timeout Clock.nothing then
    { desk with queue := desk.queue ++ [⟨task, .expired ⟨1, timeout⟩, handoffs.expiredAtOnce⟩] }
  else if liesAhead now deadline then
    { desk with blocked := desk.blocked ++ [⟨task, ⟨1, timeout⟩, deadline⟩] }
  else { desk with queue := desk.queue ++ [⟨task, .expired ⟨1, timeout⟩, handoffs.expired⟩] }

def leave (desk : Desk τ) (ticket : Ticket τ) : Desk τ :=
  let left := desk.waiting.getD 0 - 1
  if left = 0 then
    if ticket.signal = 1 then { desk with waiting := none }.silence
    else { desk with waiting := none }
  else { desk with waiting := some left }

def resume (desk : Desk τ) (now : τ) (task : Task τ) : Wake τ → Desk τ
  | .begin =>
    match desk.doc with
    | some doc => desk.finish task (fulfilled task doc)
    | none =>
      match timeout? task.goal with
      | some timeout => desk.enter now task timeout
      | none => desk.finish task (.failed (.number .tooLarge))
  | .abandoned => desk.finish task (.failed .cancelled)
  | .published ticket => (desk.leave ticket).finish task (ending task ticket.timeout desk.doc)
  | .expired ticket => (desk.leave ticket).finish task (ending task ticket.timeout none)
  | .cancelled ticket => (desk.leave ticket).finish task (.failed .cancelled)

def turn (now : τ) (desk : Desk τ) : Desk τ :=
  match desk.queue with
  | [] => desk
  | ⟨task, wake, 0⟩ :: rest => { desk with queue := rest }.resume now task wake
  | ⟨task, wake, n + 1⟩ :: rest => { desk with queue := rest ++ [⟨task, wake, n⟩] }

def wakeWhere (desk : Desk τ) (which : Blocked τ → Bool) (wake : Ticket τ → Wake τ)
    (count : Nat) : Desk τ :=
  { desk with
    queue := desk.queue ++ (desk.blocked.filter which).map fun b => ⟨b.task, wake b.ticket, count⟩
    blocked := desk.blocked.filter fun b => !which b }

def publish (desk : Desk τ) (doc : Document) : Desk τ :=
  ({ desk with doc := some doc, queue := desk.queue.map (shorten (some 1)) }.wakeWhere
    (fun b => b.ticket.signal == 1) .published handoffs.published).silence

def discard (desk : Desk τ) : Desk τ :=
  { desk with doc := none }

def start (desk : Desk τ) (task : Task τ) : Desk τ :=
  { desk with queue := desk.queue ++ [⟨task.seen, .begin, 0⟩] }

def cancel (desk : Desk τ) (id : String) : Desk τ :=
  { desk with queue := cancelQueue id desk.queue }.wakeWhere (fun b => b.task.id == id) .cancelled
    handoffs.cancelled

def moveTo (desk : Desk τ) (instant : τ) : Desk τ :=
  desk.wakeWhere (fun b => Clock.le b.deadline instant) .expired handoffs.expired

omit [Clock τ] in
theorem wakeWhere_none {desk : Desk τ} {which : Blocked τ → Bool} (wake : Ticket τ → Wake τ)
    (count : Nat) (h : ∀ b ∈ desk.blocked, which b = false) :
    desk.wakeWhere which wake count = desk := by
  have hwoken : desk.blocked.filter which = [] := by
    rw [List.filter_eq_nil_iff]
    intro b hb
    simp [h b hb]
  have hstay : desk.blocked.filter (fun b => !which b) = desk.blocked := by
    rw [List.filter_eq_self]
    intro b hb
    simp [h b hb]
  simp [wakeWhere, hwoken, hstay]

end Desk

namespace Room

/-- The desk of a URI. Which tasks that have ended were its own is told from their ids. -/
def desk (owner : String → String) (uri : String) (room : Room τ) : Desk τ where
  doc := room.index.get? uri
  ready := (room.index.ready.get? uri).isSome
  waiting := room.index.waiting.get? uri
  queue := (room.queue.filter fun r => r.task.uri = uri).map
    (Runnable.seen (room.index.ready.get? uri))
  blocked := (room.blocked.filter fun b => b.task.uri = uri).map
    (Blocked.seen (room.index.ready.get? uri))
  finished := room.finished.filter fun entry => owner entry.1 = uri

variable {owner : String → String} {uri : String} (room : Room τ)

variable {room} in
/-- The index may change where the URI does not see it. -/
theorem desk_congr {room' : Room τ} (hdoc : room'.index.get? uri = room.index.get? uri)
    (hready : room'.index.ready.get? uri = room.index.ready.get? uri)
    (hwaiting : room'.index.waiting.get? uri = room.index.waiting.get? uri)
    (hqueue : room'.queue.filter (fun r => r.task.uri = uri) =
      room.queue.filter fun r => r.task.uri = uri)
    (hblocked : room'.blocked.filter (fun b => b.task.uri = uri) =
      room.blocked.filter fun b => b.task.uri = uri)
    (hfinished : room'.finished.filter (fun entry => owner entry.1 = uri) =
      room.finished.filter fun entry => owner entry.1 = uri) :
    room'.desk owner uri = room.desk owner uri := by
  simp only [desk, hdoc, hready, hwaiting, hqueue, hblocked, hfinished]

/-- To pick among the own tasks is to pick among all of them, if the choice rests on what is
seen. -/
theorem filter_seen {ready : Option Nat} {which : Blocked τ → Bool} (which' : Blocked τ → Bool)
    {blocked : List (Blocked τ)}
    (h : ∀ b ∈ blocked, b.task.uri = uri → which' (b.seen ready) = which b) :
    ((blocked.filter fun b => b.task.uri = uri).map (Blocked.seen ready)).filter which' =
      ((blocked.filter which).filter fun b => b.task.uri = uri).map (Blocked.seen ready) := by
  rw [List.filter_map, List.filter_filter, List.filter_filter]
  congr 1
  apply List.filter_congr
  intro b hb
  by_cases hu : b.task.uri = uri
  · simp [hu, h b hb hu]
  · simp [hu]

theorem desk_wakeWhere {which : Blocked τ → Bool} (which' : Blocked τ → Bool)
    {wake : Ticket τ → Wake τ} (count : Nat)
    (hwhich : ∀ b ∈ room.blocked, b.task.uri = uri →
      which' (b.seen (room.index.ready.get? uri)) = which b)
    (hwake : ∀ ready ticket, (wake ticket).seen ready = wake (ticket.seen ready)) :
    (room.wakeWhere which wake count).desk owner uri =
      (room.desk owner uri).wakeWhere which' wake count := by
  have hstay : ∀ b ∈ room.blocked, b.task.uri = uri →
      (!which' (b.seen (room.index.ready.get? uri))) = !which b :=
    fun b hb hu => by rw [hwhich b hb hu]
  simp only [desk, wakeWhere, Desk.wakeWhere, filter_seen which' hwhich,
    filter_seen (fun b => !which' b) hstay, List.filter_append, List.map_append,
    List.filter_map, List.map_map]
  congr 2
  apply List.map_congr_left
  intro b _
  simp [Runnable.seen, hwake, Blocked.seen]

/-- The index changes, and the current signal goes. -/
theorem desk_index_silent {index : Index} (h : index.ready.get? uri = none) :
    ({ room with index } : Room τ).desk owner uri =
      ({ room.desk owner uri with
        doc := index.get? uri, waiting := index.waiting.get? uri }).silence := by
  simp [desk, Desk.silence, h]

/-- The index changes, and whoever waits for the current signal still does. -/
theorem desk_index {index : Index}
    (h : ∀ seat ∈ room.seats, seat.uri = uri →
      (index.ready.get? uri = some seat.signal ↔ room.index.ready.get? uri = some seat.signal)) :
    ({ room with index } : Room τ).desk owner uri =
      { room.desk owner uri with
        doc := index.get? uri
        ready := (index.ready.get? uri).isSome
        waiting := index.waiting.get? uri } := by
  simp only [desk]
  congr 1
  · apply List.map_congr_left
    intro r hr
    obtain ⟨hr, hu⟩ := List.mem_filter.mp hr
    apply Runnable.seen_congr
    intro seat hs
    exact h seat (mem_seats_of_queue hr hs) ((Runnable.uri_of_seat? hs).trans (of_decide_eq_true hu))
  · apply List.map_congr_left
    intro b hb
    obtain ⟨hb, hu⟩ := List.mem_filter.mp hb
    exact Blocked.seen_congr (h b.seat (mem_seats_of_blocked hb) (of_decide_eq_true hu))

theorem desk_queue_own {r : Runnable τ} (h : r.task.uri = uri) (queue : List (Runnable τ)) :
    ({ room with queue := queue ++ [r] } : Room τ).desk owner uri =
      { room.desk owner uri with
        queue := (({ room with queue } : Room τ).desk owner uri).queue ++
          [r.seen (room.index.ready.get? uri)] } := by
  simp [desk, h]

theorem desk_queue_other {r : Runnable τ} (h : r.task.uri ≠ uri) (queue : List (Runnable τ)) :
    ({ room with queue := queue ++ [r] } : Room τ).desk owner uri =
      ({ room with queue } : Room τ).desk owner uri := by
  simp [desk, h]

theorem desk_blocked_own {b : Blocked τ} (h : b.task.uri = uri) :
    ({ room with blocked := room.blocked ++ [b] } : Room τ).desk owner uri =
      { room.desk owner uri with
        blocked := (room.desk owner uri).blocked ++ [b.seen (room.index.ready.get? uri)] } := by
  simp [desk, h]

theorem desk_blocked_other {b : Blocked τ} (h : b.task.uri ≠ uri) :
    ({ room with blocked := room.blocked ++ [b] } : Room τ).desk owner uri =
      room.desk owner uri := by
  simp [desk, h]

/-! ## What a caller does -/

theorem desk_discard_own (request : Option String) :
    (room.discard request uri).desk owner uri = (room.desk owner uri).discard := by
  unfold discard
  split
  · simp only [desk, emit, Desk.discard, Index.discard_get?, if_true]
    rfl
  · next hnone =>
    have habsent : room.index.get? uri = none := by
      simpa [Entries.contains, Index.get?] using hnone
    simp only [desk, Desk.discard, habsent]

theorem desk_discard_other (request : Option String) {uri' : String} (h : uri' ≠ uri) :
    (room.discard request uri').desk owner uri = room.desk owner uri := by
  unfold discard
  split
  · simp only [desk, emit, Index.discard_get?, if_neg h]
    rfl
  · rfl

theorem desk_start_own {task : Task τ} (h : task.uri = uri) :
    (room.start task).desk owner uri = (room.desk owner uri).start task := by
  exact desk_queue_own room h room.queue

theorem desk_start_other {task : Task τ} (h : task.uri ≠ uri) :
    (room.start task).desk owner uri = room.desk owner uri := by
  exact desk_queue_other room h room.queue

theorem shorten_seen (ready : Option Nat) (r : Runnable τ) :
    (shorten ready r).seen ready = shorten (some 1) (r.seen ready) := by
  obtain ⟨task, wake, n⟩ := r
  cases wake with
  | begin | abandoned => rfl
  | published ticket | expired ticket | cancelled ticket =>
    by_cases hs : ready = some ticket.signal
    · simp [shorten, Wake.ticket?, Runnable.seen, Wake.seen, Ticket.seen, hs]
    · have hne : ¬some ticket.signal = ready := fun h => hs h.symm
      simp [shorten, Wake.ticket?, Runnable.seen, Wake.seen, Ticket.seen, hs, hne]

theorem shorten_task (signal : Option Nat) (r : Runnable τ) : (shorten signal r).task = r.task := by
  unfold shorten
  split
  · split <;> rfl
  · rfl

theorem desk_publish_own (request : Option String) {doc : Document} (h : doc.uri = uri) :
    (room.publish request doc).desk owner uri = (room.desk owner uri).publish doc := by
  let shortened : Room τ :=
    { room with queue := room.queue.map (shorten (room.index.ready.get? uri)) }
  have hshort : shortened.desk owner uri =
      { room.desk owner uri with
        queue := (room.desk owner uri).queue.map (shorten (some 1)) } := by
    simp only [desk, shortened, List.filter_map, List.map_map, Function.comp_def, shorten_task,
      shorten_seen]
  have hwoken : (shortened.wakeWhere (fun b => some b.ticket.signal == room.index.ready.get? uri)
      .published handoffs.published).desk owner uri =
      (shortened.desk owner uri).wakeWhere (fun b => b.ticket.signal == 1) .published
        handoffs.published := by
    apply desk_wakeWhere shortened
    · intro b _ _
      rw [Bool.eq_iff_iff, beq_iff_eq, beq_iff_eq]
      exact (Ticket.seen_signal _ b.ticket).trans eq_comm
    · intro _ _
      rfl
  have hready : (room.index.publish doc).1.ready.get? uri = none := by
    rw [Index.publish_ready, if_pos h]
  have hget : (room.index.publish doc).1.get? uri = some doc := by
    rw [Index.publish_get?, if_pos h]
  subst h
  refine (desk_index_silent (shortened.wakeWhere _ _ _) hready).trans ?_
  rw [hwoken, hshort, hget]
  rfl

/-- Whoever waits for another document is not woken, and the signal stays. -/
theorem desk_publish_other (hkept : room.Kept) (request : Option String) {doc : Document}
    (h : doc.uri ≠ uri) :
    (room.publish request doc).desk owner uri = room.desk owner uri := by
  have hother : ∀ seat ∈ room.seats, seat.uri = uri →
      (some seat.signal == room.index.ready.get? doc.uri) = false := by
    intro seat hs hu
    rw [beq_eq_false_iff_ne]
    intro hsignal
    exact h ((hkept.books.own seat hs doc.uri hsignal.symm).symm.trans hu)
  let shortened : Room τ :=
    { room with queue := room.queue.map (shorten (room.index.ready.get? doc.uri)) }
  have hshort : shortened.desk owner uri = room.desk owner uri := by
    simp only [desk, shortened, List.filter_map, List.map_map, Function.comp_def, shorten_task]
    congr 1
    apply List.map_congr_left
    intro r hr
    obtain ⟨hr, hu⟩ := List.mem_filter.mp hr
    congr 1
    unfold shorten
    split
    · next ticket hw =>
      have hne := hother ⟨r.task.uri, ticket.signal⟩
        (mem_seats_of_queue hr (by simp [Runnable.seat?, hw])) (of_decide_eq_true hu)
      rw [if_neg (by simpa using hne)]
    · rfl
  have hwoken : (shortened.wakeWhere (fun b => some b.ticket.signal == room.index.ready.get? doc.uri)
      .published handoffs.published).desk owner uri = room.desk owner uri := by
    rw [desk_wakeWhere _ (fun _ => false) _ _ fun _ _ => rfl, hshort]
    · exact Desk.wakeWhere_none _ _ fun _ _ => rfl
    · intro b hb hu
      exact (hother b.seat (mem_seats_of_blocked hb) hu).symm
  refine Eq.trans ?_ hwoken
  exact desk_congr ((Index.publish_get? ..).trans (if_neg h))
    ((Index.publish_ready ..).trans (if_neg h)) rfl rfl rfl rfl

theorem cancelRunnable_seen (ready : Option Nat) (r : Runnable τ) :
    (cancelRunnable r).seen ready = cancelRunnable (r.seen ready) := by
  obtain ⟨task, wake, n⟩ := r
  cases wake <;> rfl

theorem isHastened_seen (ready : Option Nat) (r : Runnable τ) :
    isHastened (r.seen ready) = isHastened r := by
  obtain ⟨task, wake, n⟩ := r
  cases wake <;> rfl

theorem cancelInPlace_seen (id : String) (ready : Option Nat) (r : Runnable τ) :
    (cancelInPlace id r).seen ready = cancelInPlace id (r.seen ready) := by
  by_cases h : r.task.id = id
  · simp [cancelInPlace, h, cancelRunnable_seen]
  · simp [cancelInPlace, h]

theorem cancelInPlace_task (id : String) (r : Runnable τ) :
    (cancelInPlace id r).task = r.task := by
  unfold cancelInPlace
  split
  · exact cancelRunnable_task r
  · rfl

/-- A cancellation takes each task by itself. -/
theorem desk_cancelQueue (id : String) (ready : Option Nat) (queue : List (Runnable τ)) :
    ((cancelQueue id queue).filter fun r => r.task.uri = uri).map (Runnable.seen ready) =
      cancelQueue id ((queue.filter fun r => r.task.uri = uri).map (Runnable.seen ready)) := by
  simp only [cancelQueue, List.filter_append, List.filter_map, List.map_append, List.map_map,
    List.filter_filter, Function.comp_def, cancelInPlace_task, cancelRunnable_task,
    cancelInPlace_seen, cancelRunnable_seen, isHastened_seen, Runnable.seen_task, Task.seen_id,
    Bool.and_comm]

theorem desk_cancel (id : String) :
    (room.cancel id).desk owner uri = (room.desk owner uri).cancel id := by
  let cancelled : Room τ := { room with queue := cancelQueue id room.queue }
  have hqueue : cancelled.desk owner uri =
      { room.desk owner uri with queue := cancelQueue id (room.desk owner uri).queue } := by
    simp only [desk, cancelled, desk_cancelQueue]
  show (cancelled.wakeWhere _ _ _).desk owner uri = _
  rw [desk_wakeWhere _ (fun b => b.task.id == id) _ _ fun _ _ => rfl, hqueue]
  · rfl
  · intro _ _ _
    rfl

/-- A cancellation does not touch who has another id. -/
theorem cancel_other {desk : Desk τ} {id : String}
    (hqueue : ∀ r ∈ desk.queue, r.task.id ≠ id) (hblocked : ∀ b ∈ desk.blocked, b.task.id ≠ id) :
    desk.cancel id = desk := by
  have hstay : cancelQueue id desk.queue = desk.queue := by
    have hmine : ∀ r ∈ desk.queue, (r.task.id == id) = false := by simpa using hqueue
    have hhere : desk.queue.filter (fun r => r.task.id == id && isHastened r) = [] := by
      rw [List.filter_eq_nil_iff]
      intro r hr
      simp [hmine r hr]
    have hrest : desk.queue.filter (fun r => !(r.task.id == id && isHastened r)) = desk.queue := by
      rw [List.filter_eq_self]
      intro r hr
      simp [hmine r hr]
    unfold cancelQueue
    simp only [hhere, hrest, List.map_nil, List.append_nil]
    nth_rewrite 2 [← List.map_id desk.queue]
    apply List.map_congr_left
    intro r hr
    simp [cancelInPlace, hmine r hr]
  unfold Desk.cancel
  rw [hstay]
  apply Desk.wakeWhere_none
  intro b hb
  simpa using hblocked b hb

theorem desk_moveTo [Clock τ] (instant : τ) :
    (room.moveTo instant).desk owner uri = (room.desk owner uri).moveTo instant := by
  show (wakeWhere { room with now := instant } _ _ _).desk owner uri = _
  rw [desk_wakeWhere _ (fun b => Clock.le b.deadline instant) _ _ fun _ _ => rfl]
  · rfl
  · intro _ _ _
    rfl

/-! ## Leaving and ending -/

theorem desk_finish_own {task : Task τ} (h : owner task.id = uri) (outcome : Outcome) :
    (room.finish task outcome).desk owner uri = (room.desk owner uri).finish task.seen outcome := by
  simp [desk, finish, Desk.finish, h]

theorem desk_finish_other {task : Task τ} (h : owner task.id ≠ uri) (outcome : Outcome) :
    (room.finish task outcome).desk owner uri = room.desk owner uri := by
  simp [desk, finish, h]

theorem desk_leave_own {task : Task τ} (h : task.uri = uri) (ticket : Ticket τ) :
    (room.leave task ticket).desk owner uri =
      (room.desk owner uri).leave (ticket.seen (room.index.ready.get? uri)) := by
  subst h
  have hleft : (room.desk owner task.uri).waiting.getD 0 = room.index.waitingFor task.uri := rfl
  have hget : (room.index.leave task.uri ticket.signal).get? task.uri =
      (room.desk owner task.uri).doc := Index.leave_get? ..
  have hready := room.index.leave_ready task.uri task.uri ticket.signal
  simp only [leave, Desk.leave, Ticket.seen_signal, hleft]
  by_cases hz : room.index.waitingFor task.uri - 1 = 0
  · have hwaiting : (room.index.leave task.uri ticket.signal).waiting.get? task.uri = none := by
      rw [Index.leave_last _ hz, Entries.get?_erase, if_pos rfl]
    by_cases hr : room.index.ready.get? task.uri = some ticket.signal
    · rw [if_pos ⟨hz, hr, rfl⟩] at hready
      rw [desk_index_silent room hready, hget, hwaiting, if_pos hz, if_pos hr]
    · rw [if_neg fun h => hr h.2.1] at hready
      rw [desk_index room fun _ _ _ => by rw [hready], hget, hready, hwaiting, if_pos hz, if_neg hr]
      rfl
  · have hwaiting : (room.index.leave task.uri ticket.signal).waiting.get? task.uri =
        some (room.index.waitingFor task.uri - 1) := by
      rw [Index.leave_others _ hz, Entries.get?_put, if_pos rfl]
    rw [if_neg fun h => hz h.1] at hready
    rw [desk_index room fun _ _ _ => by rw [hready], hget, hready, hwaiting, if_neg hz]
    rfl

theorem desk_leave_other {task : Task τ} (h : task.uri ≠ uri) (ticket : Ticket τ) :
    (room.leave task ticket).desk owner uri = room.desk owner uri := by
  have hwaiting : (room.index.leave task.uri ticket.signal).waiting.get? uri =
      room.index.waiting.get? uri := by
    by_cases hz : room.index.waitingFor task.uri - 1 = 0
    · rw [Index.leave_last _ hz, Entries.get?_erase, if_neg h]
    · rw [Index.leave_others _ hz, Entries.get?_put, if_neg h]
  have hready : (room.index.leave task.uri ticket.signal).ready.get? uri =
      room.index.ready.get? uri := by
    rw [Index.leave_ready, if_neg fun hall => h hall.2.2]
  exact desk_congr (Index.leave_get? ..) hready hwaiting rfl rfl rfl

/-! ## Beginning -/

variable [Clock τ]

theorem enter_eq (task : Task τ) (timeout : τ) :
    room.enter task timeout =
      if Clock.le timeout Clock.nothing then
        { room with
          index := (room.index.enter task.uri).1
          queue := room.queue ++ [⟨task, .expired ⟨(room.index.enter task.uri).2, timeout⟩,
            handoffs.expiredAtOnce⟩] }
      else if liesAhead room.now (Clock.add room.now timeout) then
        { room with
          index := (room.index.enter task.uri).1
          blocked := room.blocked ++ [⟨task, ⟨(room.index.enter task.uri).2, timeout⟩,
            Clock.add room.now timeout⟩] }
      else
        { room with
          index := (room.index.enter task.uri).1
          queue := room.queue ++ [⟨task, .expired ⟨(room.index.enter task.uri).2, timeout⟩,
            handoffs.expired⟩] } := rfl

theorem desk_enter_own (hissued : ∀ seat ∈ room.seats, seat.signal < room.index.fresh)
    {task : Task τ} (h : task.uri = uri) (timeout : τ) :
    (room.enter task timeout).desk owner uri =
      (room.desk owner uri).enter room.now task.seen timeout := by
  subst h
  let entered : Room τ := { room with index := (room.index.enter task.uri).1 }
  have hready : entered.index.ready.get? task.uri = some (room.index.enter task.uri).2 :=
    (Index.enter_ready ..).trans (if_pos rfl)
  have hwaiting : entered.index.waiting.get? task.uri =
      some ((room.desk owner task.uri).waiting.getD 0 + 1) := by
    simp only [entered, Index.enter_waiting, Entries.get?_put, if_true]
    rfl
  have hdesk : entered.desk owner task.uri = { room.desk owner task.uri with
      ready := true, waiting := some ((room.desk owner task.uri).waiting.getD 0 + 1) } := by
    rw [desk_index room, hready, hwaiting, Index.enter_get?]
    · rfl
    · intro seat hs hu
      rw [hready]
      rcases room.index.enter_cases task.uri with ⟨hr, -⟩ | ⟨hr, hf, -⟩
      · rw [hr]
      · -- A new signal is nobody's yet.
        have := hissued seat hs
        simp only [hr, hf, Option.some.injEq, reduceCtorEq, iff_false]
        omega
  have hticket : (⟨(room.index.enter task.uri).2, timeout⟩ : Ticket τ).seen
      (entered.index.ready.get? task.uri) = ⟨1, timeout⟩ := by
    simp [Ticket.seen, hready]
  unfold Desk.enter
  rw [enter_eq, ← hdesk]
  split
  · refine (desk_queue_own entered (by rfl) entered.queue).trans ?_
    simp only [Runnable.seen, Wake.seen, hticket]
  · split
    · next hahead =>
      refine (desk_blocked_own entered (by rfl)).trans ?_
      simp only [Blocked.seen, hticket, hahead, if_true]
    · next hahead =>
      refine (desk_queue_own entered (by rfl) entered.queue).trans ?_
      simp only [Runnable.seen, Wake.seen, hticket, hahead, if_false, Bool.false_eq_true]

theorem desk_enter_other {task : Task τ} (h : task.uri ≠ uri) (timeout : τ) :
    (room.enter task timeout).desk owner uri = room.desk owner uri := by
  let entered : Room τ := { room with index := (room.index.enter task.uri).1 }
  have hdesk : entered.desk owner uri = room.desk owner uri := by
    have hwaiting : entered.index.waiting.get? uri = room.index.waiting.get? uri := by
      simp only [entered, Index.enter_waiting, Entries.get?_put, if_neg h]
    exact desk_congr (Index.enter_get? ..) ((Index.enter_ready ..).trans (if_neg h)) hwaiting
      rfl rfl rfl
  rw [enter_eq, ← hdesk]
  split
  · exact desk_queue_other entered (by exact h) entered.queue
  · split
    · exact desk_blocked_other entered (by exact h)
    · exact desk_queue_other entered (by exact h) entered.queue

omit [Clock τ] in
theorem fulfilled_seen (task : Task τ) (doc : Document) :
    fulfilled task.seen doc = fulfilled task doc := by
  obtain ⟨id, uri, goal, request⟩ := task
  cases goal <;> rfl

theorem desk_begin_own (hissued : ∀ seat ∈ room.seats, seat.signal < room.index.fresh)
    {task : Task τ} (h : task.uri = uri) (howner : owner task.id = uri) :
    (room.begin task).desk owner uri =
      (room.desk owner uri).resume room.now task.seen .begin := by
  obtain ⟨requests, request, hid⟩ := room.identify_eq task
  subst h
  have hdoc : (room.desk owner task.uri).doc = room.index.get? task.uri := rfl
  simp only [begin, hid, Desk.resume, hdoc]
  cases room.index.get? task.uri with
  | some doc =>
    refine (desk_finish_own { room with requests } howner _).trans ?_
    rw [← fulfilled_seen]
    rfl
  | none =>
    simp only [Task.seen_goal]
    cases timeout? task.goal with
    | none => exact desk_finish_own { room with requests } howner _
    | some timeout => exact desk_enter_own { room with requests } hissued rfl timeout

theorem desk_begin_other {task : Task τ} (h : task.uri ≠ uri) (howner : owner task.id ≠ uri) :
    (room.begin task).desk owner uri = room.desk owner uri := by
  obtain ⟨requests, request, hid⟩ := room.identify_eq task
  simp only [begin, hid]
  cases room.index.get? task.uri with
  | some doc => exact desk_finish_other { room with requests } howner _
  | none =>
    cases timeout? task.goal with
    | none => exact desk_finish_other { room with requests } howner _
    | some timeout =>
      exact desk_enter_other { room with requests } (show { task with request }.uri ≠ uri from h) timeout

/-! ## Turns -/

theorem ending_seen (task : Task τ) (waited : τ) (found : Option Document) :
    ending task.seen waited found = ending task waited found := by
  obtain ⟨id, uri, goal, request⟩ := task
  cases goal <;> cases found <;> rfl

theorem desk_conclude_own {task : Task τ} (h : owner task.id = uri) (waited : τ)
    (found : Option Document) :
    (room.conclude task waited found).desk owner uri =
      (room.desk owner uri).finish task.seen (ending task.seen waited found) := by
  obtain ⟨records, he⟩ := room.conclude_eq task waited found
  rw [he, ending_seen]
  exact desk_finish_own (room.emit task.request records) h _

theorem desk_conclude_other {task : Task τ} (h : owner task.id ≠ uri) (waited : τ)
    (found : Option Document) :
    (room.conclude task waited found).desk owner uri = room.desk owner uri := by
  obtain ⟨records, he⟩ := room.conclude_eq task waited found
  rw [he]
  exact desk_finish_other (room.emit task.request records) h _

theorem desk_resume_own (hissued : ∀ seat ∈ room.seats, seat.signal < room.index.fresh)
    {task : Task τ} (h : task.uri = uri) (howner : owner task.id = uri) (wake : Wake τ) :
    (room.resume task wake).desk owner uri =
      (room.desk owner uri).resume room.now task.seen (wake.seen (room.index.ready.get? uri)) := by
  cases wake with
  | begin => exact desk_begin_own room hissued h howner
  | abandoned => exact desk_finish_own room howner _
  | published ticket =>
    rw [resume, desk_conclude_own _ howner, desk_leave_own _ h, h]
    rfl
  | expired ticket =>
    rw [resume, desk_conclude_own _ howner, desk_leave_own _ h]
    rfl
  | cancelled ticket =>
    rw [resume, desk_finish_own _ howner, desk_leave_own _ h]
    rfl

theorem desk_resume_other {task : Task τ} (h : task.uri ≠ uri) (howner : owner task.id ≠ uri)
    (wake : Wake τ) : (room.resume task wake).desk owner uri = room.desk owner uri := by
  cases wake with
  | begin => exact desk_begin_other room h howner
  | abandoned => exact desk_finish_other room howner _
  | published ticket | expired ticket =>
    rw [resume, desk_conclude_other _ howner, desk_leave_other _ h]
  | cancelled ticket => rw [resume, desk_finish_other _ howner, desk_leave_other _ h]

omit [Clock τ] in
theorem desk_cons_own {r : Runnable τ} {rest : List (Runnable τ)} (hq : room.queue = r :: rest)
    (h : r.task.uri = uri) :
    (room.desk owner uri).queue = r.seen (room.index.ready.get? uri) ::
      (({ room with queue := rest } : Room τ).desk owner uri).queue := by
  simp [desk, hq, h]

omit [Clock τ] in
theorem desk_cons_other {r : Runnable τ} {rest : List (Runnable τ)} (hq : room.queue = r :: rest)
    (h : r.task.uri ≠ uri) :
    ({ room with queue := rest } : Room τ).desk owner uri = room.desk owner uri := by
  simp [desk, hq, h]

/-- **A turn is a turn at the desk of its URI**, and is not seen at any other. -/
theorem desk_turn (hissued : ∀ seat ∈ room.seats, seat.signal < room.index.fresh)
    (howner : ∀ r ∈ room.queue, owner r.task.id = r.task.uri) :
    room.turn.desk owner uri = room.desk owner uri ∨
      room.turn.desk owner uri = (room.desk owner uri).turn room.now := by
  unfold turn
  split
  · exact Or.inl rfl
  · next task wake rest hq =>
    have hid := howner ⟨task, wake, 0⟩ (hq ▸ List.mem_cons_self)
    by_cases hu : task.uri = uri
    · right
      have hrest : ∀ seat ∈ ({ room with queue := rest } : Room τ).seats,
          seat.signal < room.index.fresh := by
        intro seat hs
        have hperm := seats_perm_of_queue (show room.queue = [] ++ _ :: rest from hq)
        exact hissued seat (hperm.mem_iff.mpr (List.mem_append_right _ hs))
      rw [desk_resume_own _ hrest hu (hid.trans hu), Desk.turn, desk_cons_own room hq hu]
      rfl
    · left
      have hne : owner task.id ≠ uri := fun he => hu (hid.symm.trans he)
      rw [desk_resume_other _ hu hne, desk_cons_other room hq hu]
  · next task wake n rest hq =>
    by_cases hu : task.uri = uri
    · right
      rw [desk_queue_own room hu, Desk.turn, desk_cons_own room hq hu]
      rfl
    · left
      rw [desk_queue_other room hu, desk_cons_other room hq hu]

end Room

end PerlSymbols
