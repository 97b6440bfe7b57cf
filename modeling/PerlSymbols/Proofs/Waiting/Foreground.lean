import PerlSymbols.Proofs.Waiting.Instants
import PerlSymbols.Proofs.Waiting.Turn

/-!
# Waiting in the foreground

A task that is run at once gets the document that is there, and otherwise what is left to it when
its time is over: nobody publishes anything while its caller waits. The run does end, since every
round wakes somebody.
-/

namespace PerlSymbols

namespace Room

variable {τ : Type} [Clock τ]

theorem le_of_liesAhead {now deadline : τ} (h : liesAhead now deadline = true) :
    Clock.le now deadline = true := by
  simp only [liesAhead, Bool.and_eq_true] at h
  exact h.1

/-! ## The task on its way -/

/-- The tasks of an id can end in one way only: each sleeps, or its deadline was reached, or it has
ended so. -/
structure Awaits (id : String) (outcome : Outcome) (room : Room τ) : Prop where
  finished : ∀ entry ∈ room.finished, entry.1 = id → entry.2 = outcome
  queued : ∀ r ∈ room.queue, r.task.id = id →
    ∃ ticket, r.wake = .expired ticket ∧ ending r.task ticket.timeout none = outcome
  asleep : ∀ b ∈ room.blocked, b.task.id = id → ending b.task b.ticket.timeout none = outcome
  timed : ∀ b ∈ room.blocked, Clock.le b.deadline b.deadline = true

theorem Awaits.finish {id : String} {outcome outcome' : Outcome} {room : Room τ} {task : Task τ}
    (h : Awaits id outcome room) (he : task.id = id → outcome' = outcome) :
    Awaits id outcome (room.finish task outcome') where
  finished entry hm hid := by
    rcases List.mem_append.mp hm with hm | hm
    · exact h.finished entry hm hid
    · rw [List.mem_singleton.mp hm] at hid ⊢
      exact he hid
  queued := h.queued
  asleep := h.asleep
  timed := h.timed

theorem Awaits.resumed (horders : Clock.Orders τ) {id : String} {outcome : Outcome}
    {room room' : Room τ} {task : Task τ} {wake : Wake τ} (hr : Resumed room task wake room')
    (h : Awaits id outcome { room with queue := ⟨task, wake, 0⟩ :: room.queue }) :
    Awaits id outcome room' := by
  have hqueued : ∀ r ∈ room.queue, r.task.id = id → ∃ ticket, r.wake = .expired ticket ∧
      ending r.task ticket.timeout none = outcome :=
    fun r hr => h.queued r (List.mem_cons_of_mem _ hr)
  have hrest : ∀ requests, Awaits id outcome { room with requests } :=
    fun _ => ⟨h.finished, hqueued, h.asleep, h.timed⟩
  -- The deadline of a task that is awaited was reached, so it neither begins nor is cancelled.
  have hother : (∀ ticket, wake ≠ .expired ticket) → task.id ≠ id := by
    intro hw hid
    obtain ⟨ticket, he, -⟩ := h.queued _ List.mem_cons_self hid
    exact hw ticket he
  cases hr with
  | @left _ ticket records hw =>
    have hleft : Awaits id outcome ((room.leave task ticket).emit task.request records) :=
      ⟨h.finished, hqueued, h.asleep, h.timed⟩
    apply hleft.finish
    intro hid
    obtain ⟨ticket', he, hends⟩ := h.queued _ List.mem_cons_self hid
    rw [show wake = .expired ticket' from he]
    exact hends
  | abandoned => exact (hrest _).finish fun he => absurd he (hother (by simp))
  | served requests request hdoc =>
    exact (hrest requests).finish fun he => absurd he (hother (by simp))
  | refused requests request hdoc htimeout =>
    exact (hrest requests).finish fun he => absurd he (hother (by simp))
  | hurried requests request hdoc htimeout hlow hhigh hover =>
    refine ⟨h.finished, ?_, h.asleep, h.timed⟩
    intro r hr he
    rcases List.mem_append.mp hr with hr | hr
    · exact hqueued r hr he
    · rw [List.mem_singleton.mp hr] at he
      exact absurd he (hother (by simp))
  | asleep requests request hdoc htimeout hpositive hahead =>
    refine ⟨h.finished, hqueued, ?_, ?_⟩
    · intro b hb he
      rcases List.mem_append.mp hb with hb | hb
      · exact h.asleep b hb he
      · rw [List.mem_singleton.mp hb] at he
        exact absurd he (hother (by simp))
    · intro b hb
      rcases List.mem_append.mp hb with hb | hb
      · exact h.timed b hb
      · rw [List.mem_singleton.mp hb]
        exact horders _ _ (le_of_liesAhead hahead)

theorem Awaits.turn (horders : Clock.Orders τ) {id : String} {outcome : Outcome} {room : Room τ}
    (h : Awaits id outcome room) : Awaits id outcome room.turn := by
  rcases room.turn_cases with
    ⟨-, he⟩ | ⟨task, wake, n, rest, hq, he⟩ | ⟨task, wake, rest, room', hq, he, hr⟩
  · rw [he]
    exact h
  · rw [he]
    refine ⟨h.finished, ?_, h.asleep, h.timed⟩
    intro r hr hid
    rcases List.mem_append.mp hr with hr | hr
    · exact h.queued r (hq ▸ List.mem_cons_of_mem _ hr) hid
    · rw [List.mem_singleton.mp hr] at hid ⊢
      exact h.queued ⟨task, wake, n + 1⟩ (hq ▸ List.mem_cons_self) hid
  · rw [he]
    refine Awaits.resumed horders hr ?_
    rw [← hq]
    exact h

theorem Awaits.moveTo {id : String} {outcome : Outcome} {room : Room τ} (h : Awaits id outcome room)
    (instant : τ) : Awaits id outcome (room.moveTo instant) where
  finished := h.finished
  queued r hr hid := by
    rcases List.mem_append.mp hr with hr | hr
    · exact h.queued r hr hid
    · obtain ⟨b, hb, rfl⟩ := List.mem_map.mp hr
      exact ⟨b.ticket, rfl, h.asleep b (List.mem_filter.mp hb).1 hid⟩
  asleep b hb := h.asleep b (List.mem_filter.mp hb).1
  timed b hb := h.timed b (List.mem_filter.mp hb).1

/-! ## The task is never lost -/

/-- A task of this id can run, sleeps or has ended. -/
def HasTask (id : String) (room : Room τ) : Prop :=
  (∃ entry ∈ room.finished, entry.1 = id) ∨ (∃ r ∈ room.queue, r.task.id = id) ∨
    ∃ b ∈ room.blocked, b.task.id = id

theorem Resumed.hasTask {room room' : Room τ} {task : Task τ} {wake : Wake τ}
    (h : Resumed room task wake room') : HasTask task.id room' := by
  cases h with
  | left | abandoned | served | refused =>
    exact Or.inl ⟨_, List.mem_append_right _ (List.mem_singleton_self _), rfl⟩
  | hurried =>
    exact Or.inr (Or.inl ⟨_, List.mem_append_right _ (List.mem_singleton_self _), rfl⟩)
  | asleep =>
    exact Or.inr (Or.inr ⟨_, List.mem_append_right _ (List.mem_singleton_self _), rfl⟩)

theorem HasTask.turn {id : String} {room : Room τ} (h : HasTask id room) :
    HasTask id room.turn := by
  rcases room.turn_cases with
    ⟨-, he⟩ | ⟨task, wake, n, rest, hq, he⟩ | ⟨task, wake, rest, room', hq, he, hr⟩
  · rw [he]
    exact h
  · rw [he]
    rcases h with hf | ⟨r, hr, hid⟩ | hb
    · exact Or.inl hf
    · rw [hq] at hr
      rcases List.mem_cons.mp hr with rfl | hr
      · exact Or.inr (Or.inl ⟨⟨task, wake, n⟩, by simp, hid⟩)
      · exact Or.inr (Or.inl ⟨r, List.mem_append_left _ hr, hid⟩)
    · exact Or.inr (Or.inr hb)
  · rw [he]
    rcases h with ⟨entry, hm, hid⟩ | ⟨r, hm, hid⟩ | ⟨b, hb, hid⟩
    · exact Or.inl ⟨entry, hr.finished_prefix.subset hm, hid⟩
    · rw [hq] at hm
      rcases List.mem_cons.mp hm with rfl | hm
      · exact hid ▸ hr.hasTask
      · exact Or.inr (Or.inl ⟨r, hr.mem_queue hm, hid⟩)
    · exact Or.inr (Or.inr ⟨b, hr.mem_blocked hb, hid⟩)

omit [Clock τ] in
theorem HasTask.wakeWhere {id : String} {room : Room τ} (h : HasTask id room)
    (which : Blocked τ → Bool) (wake : Ticket τ → Wake τ) (count : Nat) :
    HasTask id (room.wakeWhere which wake count) := by
  rcases h with hf | ⟨r, hr, hid⟩ | ⟨b, hb, hid⟩
  · exact Or.inl hf
  · exact Or.inr (Or.inl ⟨r, List.mem_append_left _ hr, hid⟩)
  · by_cases hw : which b = true
    · refine Or.inr (Or.inl ⟨⟨b.task, wake b.ticket, count⟩, List.mem_append_right _ ?_, hid⟩)
      exact List.mem_map.mpr ⟨b, List.mem_filter.mpr ⟨hb, hw⟩, rfl⟩
    · exact Or.inr (Or.inr ⟨b, List.mem_filter.mpr ⟨hb, by simpa using hw⟩, hid⟩)

/-! ## Every round wakes somebody -/

/-- The next deadline is that of a sleeper. -/
theorem nextDeadline?_eq_some {room : Room τ} (h : room.blocked ≠ []) :
    ∃ b ∈ room.blocked, room.nextDeadline? = some b.deadline := by
  have hfirst : ∀ (others : List (Blocked τ)) (best : Blocked τ), ∃ b ∈ best :: others,
      ({ room with blocked := best :: others } : Room τ).nextDeadline? = some b.deadline := by
    intro others
    induction others with
    | nil => exact fun best => ⟨best, List.mem_singleton_self _, rfl⟩
    | cons next others ih =>
      intro best
      by_cases hle : Clock.le best.deadline next.deadline = true
      · obtain ⟨b, hb, he⟩ := ih best
        refine ⟨b, ?_, ?_⟩
        · rcases List.mem_cons.mp hb with rfl | hb
          · exact List.mem_cons_self
          · exact List.mem_cons_of_mem _ (List.mem_cons_of_mem _ hb)
        · rw [← he]
          simp [nextDeadline?, hle]
      · obtain ⟨b, hb, he⟩ := ih next
        refine ⟨b, List.mem_cons_of_mem _ hb, ?_⟩
        rw [← he]
        simp [nextDeadline?, hle]
  cases hb : room.blocked with
  | nil => exact absurd hb h
  | cons best others =>
    obtain ⟨b, hm, he⟩ := hfirst others best
    refine ⟨b, hm, ?_⟩
    rw [← he, ← hb]

/-- How many sleep or may come to sleep. -/
def sleepersToCome (room : Room τ) : Nat :=
  room.blocked.length + room.queue.countP fun r => r.wake.ticket?.isNone

theorem sleepersToCome_turn (room : Room τ) : room.turn.sleepersToCome ≤ room.sleepersToCome := by
  rcases room.turn_cases with
    ⟨-, he⟩ | ⟨task, wake, n, rest, hq, he⟩ | ⟨task, wake, rest, room', hq, he, hr⟩
  · exact Nat.le_of_eq (congrArg sleepersToCome he)
  · rw [he]
    simp only [sleepersToCome, hq, List.countP_append, List.countP_cons, List.countP_nil]
    omega
  · have hcount : room.sleepersToCome = room.blocked.length +
        rest.countP (fun r => r.wake.ticket?.isNone) + if wake.ticket?.isNone then 1 else 0 := by
      simp only [sleepersToCome, hq, List.countP_cons]
      omega
    rw [he, hcount]
    cases hr with
    | left | abandoned | served | refused => exact Nat.le_add_right _ _
    | hurried => simp [sleepersToCome, List.countP_append, Wake.ticket?]
    | asleep => simp [sleepersToCome, Wake.ticket?]; omega

theorem sleepersToCome_moveTo {room : Room τ} {b : Blocked τ} (hb : b ∈ room.blocked)
    (hself : Clock.le b.deadline b.deadline = true) :
    (room.moveTo b.deadline).sleepersToCome < room.sleepersToCome := by
  have hless : (room.blocked.filter fun b' => !Clock.le b'.deadline b.deadline).length <
      room.blocked.length := by
    rw [List.length_filter_lt_length_iff_exists]
    exact ⟨b, hb, by simp [hself]⟩
  have hnone : ((room.blocked.filter fun b' => Clock.le b'.deadline b.deadline).map fun b' =>
      (⟨b'.task, .expired b'.ticket, handoffs.expired⟩ : Runnable τ)).countP
        (fun r => r.wake.ticket?.isNone) = 0 := by
    simp [List.countP_eq_zero, Wake.ticket?]
  simp only [sleepersToCome, moveTo, wakeWhere, List.countP_append, hnone]
  omega

/-! ## The run ends -/

omit [Clock τ] in
theorem hasFinished_iff {id : String} {room : Room τ} :
    hasFinished id room = true ↔ ∃ entry ∈ room.finished, entry.1 = id := by
  simp [hasFinished]

theorem runUntil_finishes (horders : Clock.Orders τ) {id : String} {outcome : Outcome} (fuel : Nat)
    {room : Room τ} (hawaits : Awaits id outcome room) (htask : HasTask id room)
    (hfuel : room.sleepersToCome < fuel) :
    Awaits id outcome (runUntil id fuel room) ∧ hasFinished id (runUntil id fuel room) = true := by
  induction fuel generalizing room with
  | zero => omega
  | succ fuel ih =>
    rw [runUntil]
    have hdone := turns_done (hasFinished id) room.turnsNeeded_le_turnsLeft
    have hawaits := turns_keep (P := Awaits id outcome) (fun _ => Awaits.turn horders)
      (hasFinished id) room.turnsLeft hawaits
    have htask := turns_keep (P := HasTask id) (fun _ => HasTask.turn) (hasFinished id)
      room.turnsLeft htask
    have hfewer := turns_keep (P := fun room' => room'.sleepersToCome ≤ room.sleepersToCome)
      (fun room' h => Nat.le_trans room'.sleepersToCome_turn h) (hasFinished id) room.turnsLeft
      (Nat.le_refl _)
    generalize turns (hasFinished id) room.turnsLeft room = settled at *
    split
    · next hfinished => exact ⟨hawaits, hfinished⟩
    · next hunfinished =>
      have hqueue : settled.queue = [] := hdone.resolve_right hunfinished
      -- It has not ended and cannot run, so it sleeps.
      obtain ⟨b, hb, -⟩ : ∃ b ∈ settled.blocked, b.task.id = id := by
        rcases htask with hf | ⟨r, hr, -⟩ | hb
        · exact absurd (hasFinished_iff.mpr hf) hunfinished
        · rw [hqueue] at hr
          cases hr
        · exact hb
      obtain ⟨next, hnext, he⟩ := nextDeadline?_eq_some (List.ne_nil_of_mem hb)
      rw [he]
      have hless := sleepersToCome_moveTo hnext (hawaits.timed next hnext)
      exact ih (hawaits.moveTo _) (htask.wakeWhere _ _ _) (by omega)

/-! ## The outcome -/

/-- How a task ends that begins now, if nobody publishes anything before it has ended. -/
def foreseen (room : Room τ) (task : Task τ) : Outcome :=
  match room.index.get? task.uri, timeout? task.goal with
  | some doc, _ => fulfilled task doc
  | none, some timeout => ending task timeout none
  | none, none => .failed (.number .tooLarge)

/-- Nobody in the room has this id, and every deadline can be reached. -/
structure Knows (id : String) (room : Room τ) : Prop where
  finished : ∀ entry ∈ room.finished, entry.1 ≠ id
  queued : ∀ r ∈ room.queue, r.task.id ≠ id
  asleep : ∀ b ∈ room.blocked, b.task.id ≠ id
  timed : ∀ b ∈ room.blocked, Clock.le b.deadline b.deadline = true

/-- The request that a task belongs to shows in the log only. -/
theorem ending_request (task : Task τ) (request : Option String) (waited : τ)
    (found : Option Document) :
    ending { task with request } waited found = ending task waited found := by
  cases found with
  | some doc => rfl
  | none => simp only [ending, disappointed]

theorem awaits_begin (horders : Clock.Orders τ) {room : Room τ} {task : Task τ}
    (h : Knows task.id room) : Awaits task.id (room.foreseen task) (room.begin task) := by
  have hrest : ∀ outcome requests, Awaits task.id outcome { room with requests } := fun _ _ =>
    ⟨fun entry hm hid => absurd hid (h.finished entry hm),
      fun r hr hid => absurd hid (h.queued r hr), fun b hb hid => absurd hid (h.asleep b hb), h.timed⟩
  have hr := resumed_begin room task
  generalize room.begin task = room' at hr
  cases hr with
  | left records hw => cases hw
  | @served doc requests request hdoc =>
    have he : room.foreseen task = fulfilled task doc := by rw [foreseen, hdoc]
    rw [he]
    exact (hrest _ requests).finish fun _ => rfl
  | refused requests request hdoc htimeout =>
    have he : room.foreseen task = .failed (.number .tooLarge) := by rw [foreseen, hdoc, htimeout]
    rw [he]
    exact (hrest _ requests).finish fun _ => rfl
  | @hurried timeout requests request n hdoc htimeout hlow hhigh hover =>
    have he : room.foreseen task = ending task timeout none := by rw [foreseen, hdoc, htimeout]
    rw [he]
    have hrest := hrest (ending task timeout none) requests
    refine ⟨hrest.finished, ?_, hrest.asleep, hrest.timed⟩
    intro r hr hid
    rcases List.mem_append.mp hr with hr | hr
    · exact hrest.queued r hr hid
    · rw [List.mem_singleton.mp hr]
      exact ⟨_, rfl, ending_request ..⟩
  | @asleep timeout requests request hdoc htimeout hpositive hahead =>
    have he : room.foreseen task = ending task timeout none := by rw [foreseen, hdoc, htimeout]
    rw [he]
    have hrest := hrest (ending task timeout none) requests
    refine ⟨hrest.finished, hrest.queued, ?_, ?_⟩
    · intro b hb hid
      rcases List.mem_append.mp hb with hb | hb
      · exact hrest.asleep b hb hid
      · rw [List.mem_singleton.mp hb]
        exact ending_request ..
    · intro b hb
      rcases List.mem_append.mp hb with hb | hb
      · exact hrest.timed b hb
      · rw [List.mem_singleton.mp hb]
        exact horders _ _ (le_of_liesAhead hahead)

theorem perform_outcome (horders : Clock.Orders τ) {room : Room τ} {task : Task τ}
    (h : Knows task.id room) : (room.perform task).2 = room.foreseen task := by
  have hfuel : (room.begin task).sleepersToCome <
      (room.begin task).queue.length + (room.begin task).blocked.length + 1 := by
    have := List.countP_le_length (p := fun r : Runnable τ => r.wake.ticket?.isNone)
      (l := (room.begin task).queue)
    simp only [sleepersToCome]
    omega
  obtain ⟨hawaits, hfinished⟩ := runUntil_finishes horders _ (awaits_begin horders h)
    (resumed_begin room task).hasTask hfuel
  obtain ⟨entry, hm, hid⟩ := hasFinished_iff.mp hfinished
  have hfind : ((room.run task).finished.find? fun entry => entry.1 == task.id).isSome := by
    rw [List.find?_isSome]
    exact ⟨entry, hm, by simpa using hid⟩
  obtain ⟨found, hfound⟩ := Option.isSome_iff_exists.mp hfind
  rw [perform, hfound]
  refine hawaits.finished found (List.mem_of_find?_eq_some hfound) ?_
  simpa using List.find?_some hfound

end Room

end PerlSymbols
