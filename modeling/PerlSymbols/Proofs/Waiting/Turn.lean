import PerlSymbols.Index.Waiting
import Mathlib.Algebra.Ring.Nat

/-!
# What a turn does

A task that begins ends at once, or it begins to wait. A woken task leaves and ends. Everything
about runs is derived from these cases.
-/

namespace PerlSymbols.Room

variable {τ : Type} [Clock τ]

/-! ## Leaving -/

/-- How a task ends that was ready to wait for some time. -/
def ending (task : Task τ) (waited : τ) : Option Document → Outcome
  | some doc => fulfilled task doc
  | none => (disappointed task waited).2

/-- How a woken task ends. -/
def parting (index : Index) (task : Task τ) : Wake τ → Outcome
  | .published ticket => ending task ticket.timeout (index.get? task.uri)
  | .expired ticket => ending task ticket.timeout none
  | _ => .failed .cancelled

theorem conclude_eq (room : Room τ) (task : Task τ) (waited : τ) (found : Option Document) :
    ∃ records, room.conclude task waited found =
      (room.emit task.request records).finish task (ending task waited found) := by
  cases found with
  | some doc => exact ⟨[], by simp [conclude, emit, ending]⟩
  | none => exact ⟨(disappointed task waited).1, rfl⟩

/-! ## One turn -/

/-- What becomes of a room in which a task has its turn. -/
inductive Resumed (room : Room τ) (task : Task τ) : Wake τ → Room τ → Prop
  /-- A woken waiter leaves and ends. -/
  | left {wake : Wake τ} {ticket : Ticket τ} (records : List Record)
      (hw : wake.ticket? = some ticket) :
    Resumed room task wake
      (((room.leave task ticket).emit task.request records).finish task
        (parting room.index task wake))
  | abandoned : Resumed room task .abandoned (room.finish task (.failed .cancelled))
  /-- The document is there. -/
  | served {doc : Document} (requests : Nat) (request : Option String)
      (hdoc : room.index.get? task.uri = some doc) :
    Resumed room task .begin
      ({ room with requests }.finish { task with request } (fulfilled { task with request } doc))
  /-- The timeout is out of range. -/
  | refused (requests : Nat) (request : Option String) (hdoc : room.index.get? task.uri = none)
      (htimeout : timeout? task.goal = none) :
    Resumed room task .begin
      ({ room with requests }.finish { task with request } (.failed (.number .tooLarge)))
  /-- The task has no time to wait. -/
  | hurried {timeout : τ} (requests : Nat) (request : Option String) {n : Nat}
      (hdoc : room.index.get? task.uri = none) (htimeout : timeout? task.goal = some timeout)
      (hlow : handoffs.expiredAtOnce ≤ n) (hhigh : n ≤ handoffs.expired)
      (hover : Clock.le timeout Clock.nothing = true ∨
        liesAhead room.now (Clock.add room.now timeout) = false) :
    Resumed room task .begin { room with
      requests
      index := (room.index.enter task.uri).1
      queue := room.queue ++ [⟨{ task with request },
        .expired ⟨(room.index.enter task.uri).2, timeout⟩, n⟩] }
  /-- The task sleeps until its deadline. -/
  | asleep {timeout : τ} (requests : Nat) (request : Option String)
      (hdoc : room.index.get? task.uri = none) (htimeout : timeout? task.goal = some timeout)
      (hpositive : Clock.le timeout Clock.nothing = false)
      (hahead : liesAhead room.now (Clock.add room.now timeout) = true) :
    Resumed room task .begin { room with
      requests
      index := (room.index.enter task.uri).1
      blocked := room.blocked ++ [⟨{ task with request },
        ⟨(room.index.enter task.uri).2, timeout⟩, Clock.add room.now timeout⟩] }

omit [Clock τ] in
theorem identify_eq (room : Room τ) (task : Task τ) : ∃ requests request,
    room.identify task = ({ room with requests }, { task with request }) := by
  unfold identify
  split
  · exact ⟨_, _, rfl⟩
  · exact ⟨room.requests, task.request, rfl⟩

theorem resumed_begin (room : Room τ) (task : Task τ) :
    Resumed room task .begin (room.begin task) := by
  obtain ⟨requests, request, hid⟩ := room.identify_eq task
  simp only [begin, hid]
  cases hdoc : room.index.get? task.uri with
  | some doc => exact .served requests request hdoc
  | none =>
    cases htimeout : timeout? task.goal with
    | none => exact .refused requests request hdoc htimeout
    | some timeout =>
      simp only [enter]
      split
      · next hle =>
        exact .hurried requests request hdoc htimeout (by decide) (by decide) (Or.inl hle)
      · next hle =>
        split
        · next hahead =>
          exact .asleep requests request hdoc htimeout (by simpa using hle) hahead
        · next hahead =>
          exact .hurried requests request hdoc htimeout (by decide) (by decide)
            (Or.inr (by simpa using hahead))

theorem resumed (room : Room τ) (task : Task τ) (wake : Wake τ) :
    Resumed room task wake (room.resume task wake) := by
  cases wake with
  | begin => exact resumed_begin room task
  | abandoned => exact .abandoned
  | published ticket =>
    obtain ⟨records, he⟩ :=
      conclude_eq (room.leave task ticket) task ticket.timeout (room.index.get? task.uri)
    rw [resume, he]
    exact .left records rfl
  | expired ticket =>
    obtain ⟨records, he⟩ := conclude_eq (room.leave task ticket) task ticket.timeout none
    rw [resume, he]
    exact .left records rfl
  | cancelled ticket =>
    have he : room.resume task (.cancelled ticket) =
        ((room.leave task ticket).emit task.request []).finish task (.failed .cancelled) := by
      simp [resume, emit]
    rw [he]
    exact .left [] rfl

/-- A turn takes nobody else out of the queue. -/
theorem Resumed.mem_queue {room room' : Room τ} {task : Task τ} {wake : Wake τ}
    (h : Resumed room task wake room') {r : Runnable τ} (hr : r ∈ room.queue) :
    r ∈ room'.queue := by
  cases h with
  | hurried => exact List.mem_append_left _ hr
  | left | abandoned | served | refused | asleep => exact hr

theorem Resumed.mem_blocked {room room' : Room τ} {task : Task τ} {wake : Wake τ}
    (h : Resumed room task wake room') {b : Blocked τ} (hb : b ∈ room.blocked) :
    b ∈ room'.blocked := by
  cases h with
  | asleep => exact List.mem_append_left _ hb
  | left | abandoned | served | refused | hurried => exact hb

theorem Resumed.finished_prefix {room room' : Room τ} {task : Task τ} {wake : Wake τ}
    (h : Resumed room task wake room') : room.finished <+: room'.finished := by
  cases h with
  | hurried | asleep => exact List.prefix_refl _
  | left | abandoned | served | refused => exact List.prefix_append ..

/-- Whoever was woken ends in its turn. -/
theorem Resumed.finished_of_woken {room room' : Room τ} {task : Task τ} {wake : Wake τ}
    (h : Resumed room task wake room') (hw : wake ≠ .begin) :
    room'.finished = room.finished ++ [(task.id, parting room.index task wake)] := by
  cases h with
  | left | abandoned => rfl
  | served | refused | hurried | asleep => exact absurd rfl hw

/-- The first of the queue is handed on, or has its turn. -/
theorem turn_cases (room : Room τ) :
    (room.queue = [] ∧ room.turn = room) ∨
    (∃ task wake n rest, room.queue = ⟨task, wake, n + 1⟩ :: rest ∧
      room.turn = { room with queue := rest ++ [⟨task, wake, n⟩] }) ∨
    ∃ task wake rest room', room.queue = ⟨task, wake, 0⟩ :: rest ∧ room.turn = room' ∧
      Resumed { room with queue := rest } task wake room' := by
  unfold turn
  split
  · next hq => exact Or.inl ⟨hq, rfl⟩
  · next task wake rest hq => exact Or.inr (Or.inr ⟨task, wake, rest, _, hq, rfl, resumed _ _ _⟩)
  · next task wake n rest hq => exact Or.inr (Or.inl ⟨task, wake, n, rest, hq, rfl⟩)

/-! ## Many turns -/

/-- What each turn keeps, any number of turns keep. -/
theorem turns_keep {P : Room τ → Prop} (hturn : ∀ room : Room τ, P room → P room.turn)
    (stop : Room τ → Bool) (fuel : Nat) {room : Room τ} (h : P room) :
    P (turns stop fuel room) := by
  induction fuel generalizing room with
  | zero => exact h
  | succ fuel ih =>
    unfold turns
    split
    · exact h
    · exact ih (hturn room h)

/-- The turns that a task takes at most until it waits or ends. -/
def turnsOf (r : Runnable τ) : Nat :=
  match r.wake with
  | .begin => r.handoffs + handoffs.expired + 2
  | _ => r.handoffs + 1

def turnsNeeded (room : Room τ) : Nat :=
  (room.queue.map turnsOf).sum

theorem turnsNeeded_turn {room : Room τ} (h : room.queue ≠ []) :
    room.turn.turnsNeeded < room.turnsNeeded := by
  rcases room.turn_cases with
    ⟨hq, -⟩ | ⟨task, wake, n, rest, hq, he⟩ | ⟨task, wake, rest, room', hq, he, hr⟩
  · exact absurd hq h
  · have hless : turnsOf ⟨task, wake, n⟩ < turnsOf ⟨task, wake, n + 1⟩ := by
      cases wake <;> simp only [turnsOf] <;> omega
    rw [he]
    simp only [turnsNeeded, hq, List.map_append, List.map_cons, List.map_nil, List.sum_append,
      List.sum_cons, List.sum_nil]
    omega
  · have hone : 0 < turnsOf (⟨task, wake, 0⟩ : Runnable τ) := by
      cases wake <;> simp only [turnsOf] <;> omega
    have hrest : (rest.map turnsOf).sum < room.turnsNeeded := by
      simp only [turnsNeeded, hq, List.map_cons, List.sum_cons]
      omega
    rw [he]
    cases hr with
    | left records hw => exact hrest
    | abandoned => exact hrest
    | served requests request hdoc => exact hrest
    | refused requests request hdoc htimeout => exact hrest
    | hurried requests request hdoc htimeout hlow hhigh hover =>
      simp only [turnsNeeded, hq, List.map_append, List.map_cons, List.map_nil, List.sum_append,
        List.sum_cons, List.sum_nil, turnsOf]
      omega
    | asleep requests request hdoc htimeout hpositive hahead => exact hrest

omit [Clock τ] in
theorem turnsNeeded_le_turnsLeft (room : Room τ) : room.turnsNeeded ≤ room.turnsLeft := by
  have hfold : ∀ (queue : List (Runnable τ)) (n : Nat),
      (queue.map turnsOf).sum + n ≤ queue.foldl (fun n r => n + r.handoffs + 8) n := by
    intro queue
    induction queue with
    | nil => simp
    | cons r rest ih =>
      intro n
      have hle : turnsOf r ≤ r.handoffs + 8 := by
        unfold turnsOf
        split <;> simp [handoffs]
      have := ih (n + r.handoffs + 8)
      simp only [List.map_cons, List.sum_cons, List.foldl_cons]
      omega
  have := hfold room.queue (8 * room.blocked.length)
  simp only [turnsNeeded, turnsLeft]
  omega

/-- Given enough turns, the queue is empty in the end, unless the turns were stopped. -/
theorem turns_done (stop : Room τ → Bool) {fuel : Nat} {room : Room τ}
    (h : room.turnsNeeded ≤ fuel) :
    (turns stop fuel room).queue = [] ∨ stop (turns stop fuel room) = true := by
  induction fuel generalizing room with
  | zero =>
    left
    show room.queue = []
    cases hq : room.queue with
    | nil => rfl
    | cons r rest =>
      have hone : 0 < turnsOf r := by
        unfold turnsOf
        split <;> omega
      simp only [turnsNeeded, hq, List.map_cons, List.sum_cons] at h
      omega
  | succ fuel ih =>
    unfold turns
    split
    · next hstop => simpa using hstop
    · next hgo =>
      apply ih
      have := turnsNeeded_turn (show room.queue ≠ [] by intro hq; simp [hq] at hgo)
      omega

theorem settle_queue (room : Room τ) : room.settle.queue = [] := by
  rcases turns_done (fun _ => false) (turnsNeeded_le_turnsLeft room) with h | h
  · exact h
  · cases h

end PerlSymbols.Room
