import PerlSymbols.Proofs.Waiting.Books
import PerlSymbols.Proofs.Waiting.Turn
import Mathlib.Logic.Function.Iterate

/-!
# What comes of a room that settles

While the tasks have their turns, no time passes and no document comes or goes. So whatever becomes
of a task can be told from the room as it was before.
-/

namespace PerlSymbols

/-- A task is the call that was made, but for the request it belongs to. -/
structure Task.Is {τ : Type} (task call : Task τ) : Prop where
  id : task.id = call.id
  uri : task.uri = call.uri
  goal : task.goal = call.goal

namespace Room

variable {τ : Type} [Clock τ]

/-- A call that is about to begin in a room will find no document, and as a task will be ready to
wait for some time. -/
structure Comes (room : Room τ) (call task : Task τ) (timeout : τ) : Prop where
  due : ∃ n, ⟨call, .begin, n⟩ ∈ room.queue
  same : task.Is call
  absent : room.index.get? call.uri = none
  window : timeout? call.goal = some timeout

/-- There is no time to wait. -/
def IsOver (now timeout : τ) : Prop :=
  Clock.le timeout Clock.nothing = true ∨ liesAhead now (Clock.add now timeout) = false

/-- The tasks that end in a room that settles. -/
inductive Ends (room : Room τ) : Task τ → Outcome → Prop
  | parted {task : Task τ} {wake : Wake τ} {n : Nat} (h : ⟨task, wake, n⟩ ∈ room.queue)
      (hw : wake ≠ .begin) : Ends room task (parting room.index task wake)
  | served {call : Task τ} {n : Nat} {doc : Document} (request : Option String)
      (h : ⟨call, .begin, n⟩ ∈ room.queue) (hdoc : room.index.get? call.uri = some doc) :
    Ends room call (fulfilled { call with request } doc)
  | refused {call : Task τ} {n : Nat} (h : ⟨call, .begin, n⟩ ∈ room.queue)
      (hdoc : room.index.get? call.uri = none) (htimeout : timeout? call.goal = none) :
    Ends room call (.failed (.number .tooLarge))
  | hurried {call task : Task τ} {timeout : τ} (h : Comes room call task timeout)
      (hover : IsOver room.now timeout) : Ends room task (ending task timeout none)

/-- After some turns it is the turn of a task, and in that turn it ends. -/
def EndsAtTurn (room : Room τ) (task : Task τ) (outcome : Outcome) : Prop :=
  ∃ n wake rest, (turn^[n] room).queue = ⟨task, wake, 0⟩ :: rest ∧
    (turn^[n] room).turn.finished = (turn^[n] room).finished ++ [(task.id, outcome)]

/-- The tasks that ended on the way from one room to another. -/
def ended (room room' : Room τ) : List (String × Outcome) :=
  room'.finished.drop room.finished.length

omit [Clock τ] in
theorem mem_ended_or_finished {room room' : Room τ} (h : room.finished <+: room'.finished)
    {entry : String × Outcome} (hm : entry ∈ room'.finished) :
    entry ∈ room.finished ∨ entry ∈ ended room room' := by
  obtain ⟨more, he⟩ := h
  rw [← he] at hm
  rw [ended, ← he, List.drop_left]
  exact List.mem_append.mp hm

theorem Ends.exists_queue {room : Room τ} {task : Task τ} {outcome : Outcome}
    (h : Ends room task outcome) : ∃ r ∈ room.queue, r.task.id = task.id := by
  cases h with
  | parted h | served _ h | refused h => exact ⟨_, h, rfl⟩
  | hurried h =>
    obtain ⟨n, hm⟩ := h.due
    exact ⟨_, hm, h.same.id.symm⟩

/-- On the way from a room to the one it settles in. -/
structure Settling (room room' : Room τ) : Prop where
  now : room'.now = room.now
  docs : room'.index.docs = room.index.docs
  queue : ∀ r ∈ room'.queue, (∃ n, ⟨r.task, r.wake, n⟩ ∈ room.queue) ∨
    ∃ call ticket, r.wake = .expired ticket ∧ Comes room call r.task ticket.timeout ∧
      IsOver room.now ticket.timeout
  blocked : ∀ b ∈ room'.blocked, b ∈ room.blocked ∨
    ∃ call, Comes room call b.task b.ticket.timeout ∧
      b.deadline = Clock.add room.now b.ticket.timeout ∧ liesAhead room.now b.deadline = true
  grows : room.finished <+: room'.finished

theorem settling_refl (room : Room τ) : Settling room room where
  now := rfl
  docs := rfl
  queue r hr := Or.inl ⟨r.handoffs, hr⟩
  blocked _ := Or.inl
  grows := List.prefix_refl _

namespace Settling

variable {room room' : Room τ}

theorem get? (h : Settling room room') (uri : String) :
    room'.index.get? uri = room.index.get? uri := by
  rw [Index.get?, Index.get?, h.docs]

/-- Only tasks that were in the queue from the start begin. -/
theorem begins (h : Settling room room') {task : Task τ} {n : Nat}
    (hm : ⟨task, .begin, n⟩ ∈ room'.queue) : ∃ n, ⟨task, .begin, n⟩ ∈ room.queue := by
  rcases h.queue _ hm with hm | ⟨_, _, he, -⟩
  · exact hm
  · cases he

theorem comes (h : Settling room room') {task : Task τ} {n : Nat}
    (hm : ⟨task, .begin, n⟩ ∈ room'.queue) (request : Option String) {timeout : τ}
    (hdoc : room'.index.get? task.uri = none) (htimeout : timeout? task.goal = some timeout) :
    Comes room task { task with request } timeout :=
  ⟨h.begins hm, ⟨rfl, rfl, rfl⟩, h.get? _ ▸ hdoc, htimeout⟩

end Settling

/-! ## One turn -/

theorem parting_congr {index index' : Index} (h : index'.docs = index.docs) (task : Task τ)
    (wake : Wake τ) : parting index' task wake = parting index task wake := by
  cases wake <;> simp only [parting, Index.get?, h]

section Resumed

variable {room room₁ room' : Room τ} {task : Task τ} {wake : Wake τ}

/-- The first of the queue has its turn. -/
theorem Settling.resumed (hr : Resumed room₁ task wake room')
    (h : Settling room { room₁ with queue := ⟨task, wake, 0⟩ :: room₁.queue }) :
    Settling room room' := by
  have hqueue := fun r hr => h.queue r (List.mem_cons_of_mem _ hr)
  have hgrows := fun entry => h.grows.trans (List.prefix_append room₁.finished [entry])
  cases hr with
  | left => exact ⟨h.now, (Index.leave_docs ..).trans h.docs, hqueue, h.blocked, hgrows _⟩
  | abandoned | served | refused => exact ⟨h.now, h.docs, hqueue, h.blocked, hgrows _⟩
  | hurried requests request hdoc htimeout hlow hhigh hover =>
    refine ⟨h.now, (Index.enter_docs ..).trans h.docs, ?_, h.blocked, h.grows⟩
    intro r hr
    rcases List.mem_append.mp hr with hr | hr
    · exact hqueue r hr
    · rw [List.mem_singleton.mp hr]
      have hnow : room₁.now = room.now := h.now
      exact Or.inr ⟨task, _, rfl, h.comes List.mem_cons_self request hdoc htimeout, hnow ▸ hover⟩
  | asleep requests request hdoc htimeout hpositive hahead =>
    refine ⟨h.now, (Index.enter_docs ..).trans h.docs, hqueue, ?_, h.grows⟩
    intro b hb
    rcases List.mem_append.mp hb with hb | hb
    · exact h.blocked b hb
    · rw [List.mem_singleton.mp hb]
      have hnow : room₁.now = room.now := h.now
      rw [hnow] at hahead ⊢
      exact Or.inr ⟨task, h.comes List.mem_cons_self request hdoc htimeout, rfl, hahead⟩

/-- Whoever ends in its turn ends as could be told from the start. -/
theorem Settling.ends_of_resumed (hr : Resumed room₁ task wake room')
    (h : Settling room { room₁ with queue := ⟨task, wake, 0⟩ :: room₁.queue }) :
    room'.finished = room₁.finished ∨
      ∃ outcome, room'.finished = room₁.finished ++ [(task.id, outcome)] ∧
        Ends room task outcome := by
  have hhead := h.queue ⟨task, wake, 0⟩ List.mem_cons_self
  cases hr with
  | left records hw =>
    refine Or.inr ⟨_, rfl, ?_⟩
    rw [parting_congr h.docs]
    rcases hhead with ⟨n, hm⟩ | ⟨call, ticket, he, hc, hover⟩
    · refine .parted hm ?_
      rintro rfl
      cases hw
    · rw [show wake = .expired ticket from he]
      exact .hurried hc hover
  | abandoned =>
    rcases hhead with ⟨n, hm⟩ | ⟨_, _, he, -⟩
    · exact Or.inr ⟨_, rfl, .parted hm (by simp)⟩
    · cases he
  | served requests request hdoc =>
    obtain ⟨n, hm⟩ := h.begins List.mem_cons_self
    exact Or.inr ⟨_, rfl, .served request hm (h.get? _ ▸ hdoc)⟩
  | refused requests request hdoc htimeout =>
    obtain ⟨n, hm⟩ := h.begins List.mem_cons_self
    exact Or.inr ⟨_, rfl, .refused hm (h.get? _ ▸ hdoc) htimeout⟩
  | hurried | asleep => exact Or.inl rfl

end Resumed

theorem Settling.turn {room room' : Room τ} (h : Settling room room') :
    Settling room room'.turn := by
  rcases room'.turn_cases with
    ⟨-, he⟩ | ⟨task, wake, n, rest, hq, he⟩ | ⟨task, wake, rest, room'', hq, he, hr⟩
  · rw [he]
    exact h
  · rw [he]
    refine ⟨h.now, h.docs, ?_, h.blocked, h.grows⟩
    intro r hr
    rcases List.mem_append.mp hr with hr | hr
    · exact h.queue r (hq ▸ List.mem_cons_of_mem _ hr)
    · rw [List.mem_singleton.mp hr]
      exact h.queue ⟨task, wake, n + 1⟩ (hq ▸ List.mem_cons_self)
  · rw [he]
    refine Settling.resumed hr ?_
    rw [← hq]
    exact h

theorem settling_settle (room : Room τ) : Settling room room.settle :=
  turns_keep (fun _ h => Settling.turn h) _ _ (settling_refl room)

/-! ## Who ends, and when -/

omit [Clock τ] in
theorem ended_snoc {room room₁ room₂ : Room τ} (h : room.finished <+: room₁.finished)
    {entry : String × Outcome} (he : room₂.finished = room₁.finished ++ [entry]) :
    ended room room₂ = ended room room₁ ++ [entry] := by
  rw [ended, ended, he, List.drop_append_of_le_length h.length_le]

omit [Clock τ] in
theorem ended_mono {room room₁ room₂ : Room τ} (h₁ : room.finished <+: room₁.finished)
    (h₂ : room₁.finished <+: room₂.finished) {entry : String × Outcome}
    (h : entry ∈ ended room room₁) : entry ∈ ended room room₂ := by
  obtain ⟨more, he⟩ := h₂
  rw [ended, ← he, List.drop_append_of_le_length h₁.length_le]
  exact List.mem_append_left _ h

/-- The turns of a room that settles: whoever ended had its turn, and whoever was woken is in the
queue until it has its turn. -/
structure Course (room room' : Room τ) : Prop extends Settling room room' where
  turned : ∃ n, turn^[n] room = room'
  accounted : ∀ entry ∈ ended room room', ∃ task, task.id = entry.1 ∧
    Ends room task entry.2 ∧ EndsAtTurn room task entry.2
  heard : ∀ r ∈ room.queue, r.wake ≠ .begin →
    (∃ n, ⟨r.task, r.wake, n⟩ ∈ room'.queue) ∨
      (r.task.id, parting room.index r.task r.wake) ∈ ended room room' ∧
        EndsAtTurn room r.task (parting room.index r.task r.wake)

theorem course_refl (room : Room τ) : Course room room where
  toSettling := settling_refl room
  turned := ⟨0, rfl⟩
  accounted entry he := by simp [ended] at he
  heard r hr _ := Or.inl ⟨r.handoffs, hr⟩

/-- The turn of a task comes, and it ends. -/
theorem Course.endsAtTurn {room room' : Room τ} (h : Course room room') {task : Task τ}
    {wake : Wake τ} {rest : List (Runnable τ)} {outcome : Outcome}
    (hq : room'.queue = ⟨task, wake, 0⟩ :: rest)
    (he : room'.turn.finished = room'.finished ++ [(task.id, outcome)]) :
    EndsAtTurn room task outcome := by
  obtain ⟨n, rfl⟩ := h.turned
  exact ⟨n, wake, rest, hq, he⟩

theorem Course.turned_succ {room room' : Room τ} (h : Course room room') :
    ∃ n, turn^[n] room = room'.turn := by
  obtain ⟨n, rfl⟩ := h.turned
  exact ⟨n + 1, Function.iterate_succ_apply' ..⟩

theorem Course.turn {room room' : Room τ} (h : Course room room') : Course room room'.turn := by
  have hsettling := h.toSettling.turn
  have hturned := h.turned_succ
  rcases room'.turn_cases with
    ⟨-, he⟩ | ⟨task, wake, n, rest, hq, he⟩ | ⟨task, wake, rest, room'', hq, rfl, hres⟩
  · rw [he]
    exact h
  · have hsame : ended room room'.turn = ended room room' := by rw [he, ended, ended]
    refine ⟨hsettling, hturned, hsame ▸ h.accounted, ?_⟩
    intro r hr hw
    rw [hsame, he]
    refine (h.heard r hr hw).imp_left ?_
    rintro ⟨m, hm⟩
    rw [hq] at hm
    rcases List.mem_cons.mp hm with hm | hm
    · cases hm
      exact ⟨n, by simp⟩
    · exact ⟨m, List.mem_append_left _ hm⟩
  · have hhead : Settling room { ({ room' with queue := rest } : Room τ) with
        queue := ⟨task, wake, 0⟩ :: rest } := by
      rw [← hq]
      exact h.toSettling
    refine ⟨hsettling, hturned, ?_, ?_⟩
    · rcases hhead.ends_of_resumed hres with hsame | ⟨outcome, hsnoc, hends⟩
      · rw [ended, hsame]
        exact h.accounted
      · rw [ended_snoc h.grows hsnoc]
        intro entry hm
        rcases List.mem_append.mp hm with hm | hm
        · exact h.accounted entry hm
        · rw [List.mem_singleton.mp hm]
          exact ⟨task, rfl, hends, h.endsAtTurn hq hsnoc⟩
    · intro r hr hw
      rcases h.heard r hr hw with ⟨m, hm⟩ | ⟨hended, hturn⟩
      · rw [hq] at hm
        rcases List.mem_cons.mp hm with hm | hm
        · -- It has its turn now.
          cases hm
          have hsnoc := hres.finished_of_woken hw
          rw [parting_congr h.docs] at hsnoc
          refine Or.inr ⟨?_, h.endsAtTurn hq hsnoc⟩
          rw [ended_snoc h.grows hsnoc]
          exact List.mem_append_right _ (List.mem_singleton_self _)
        · exact Or.inl ⟨m, hres.mem_queue hm⟩
      · exact Or.inr ⟨ended_mono h.grows hres.finished_prefix hended, hturn⟩

theorem course_settle (room : Room τ) : Course room room.settle :=
  turns_keep (fun _ h => Course.turn h) _ _ (course_refl room)

/-- Everyone who was woken ends before the room has settled. -/
theorem ended_of_woken {room : Room τ} {task : Task τ} {wake : Wake τ} {n : Nat}
    (h : ⟨task, wake, n⟩ ∈ room.queue) (hw : wake ≠ .begin) :
    (task.id, parting room.index task wake) ∈ ended room room.settle ∧
      EndsAtTurn room task (parting room.index task wake) := by
  rcases (course_settle room).heard _ h hw with ⟨m, hm⟩ | hended
  · rw [settle_queue] at hm
    cases hm
  · exact hended

end Room

end PerlSymbols
