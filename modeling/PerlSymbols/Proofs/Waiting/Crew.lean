import PerlSymbols.Proofs.Waiting.Turn

/-!
# The crew of a room

The crew are all tasks that have not ended, those that can run and those that sleep. A member has a
ticket from the moment it begins to wait. What happens between turns moves the members about, and
changes neither their tasks nor their tickets.
-/

namespace PerlSymbols.Room

variable {τ : Type}

def crew (room : Room τ) : List (Task τ × Option (Ticket τ)) :=
  room.queue.map (fun r => (r.task, r.wake.ticket?)) ++
    room.blocked.map fun b => (b.task, some b.ticket)

/-! ## Between turns -/

theorem wakeWhere_crew (room : Room τ) (which : Blocked τ → Bool) {wake : Ticket τ → Wake τ}
    (count : Nat) (hw : ∀ ticket, (wake ticket).ticket? = some ticket) :
    (room.wakeWhere which wake count).crew.Perm room.crew := by
  simp only [crew, wakeWhere, List.map_append, List.map_map, Function.comp_def, hw,
    List.append_assoc]
  apply List.Perm.append_left
  rw [← List.map_append]
  exact (List.filter_append_perm which room.blocked).map _

/-- The crew depends on the tasks of the queue and their tickets, not on their hand-offs. -/
theorem crew_of_queue (room : Room τ) {queue : List (Runnable τ)}
    (h : (queue.map fun r => (r.task, r.wake.ticket?)).Perm
      (room.queue.map fun r => (r.task, r.wake.ticket?))) :
    ({ room with queue } : Room τ).crew.Perm room.crew :=
  h.append_right _

theorem shorten_member (signal : Option Nat) (r : Runnable τ) :
    ((shorten signal r).task, (shorten signal r).wake.ticket?) = (r.task, r.wake.ticket?) := by
  unfold shorten
  split
  · split <;> rfl
  · rfl

theorem publish_crew (room : Room τ) (request : Option String) (doc : Document) :
    (room.publish request doc).crew.Perm room.crew := by
  refine (wakeWhere_crew _ _ handoffs.published fun _ => rfl).trans ?_
  apply crew_of_queue room
  simp only [List.map_map, Function.comp_def, shorten_member]
  exact List.Perm.refl _

theorem discard_keeps (room : Room τ) (request : Option String) (uri : String) :
    (room.discard request uri).crew = room.crew ∧
    (room.discard request uri).finished = room.finished ∧
    (room.discard request uri).requests = room.requests := by
  unfold discard
  split <;> exact ⟨rfl, rfl, rfl⟩

theorem discard_ids (room : Room τ) (request : Option String) (uri : String) :
    (room.discard request uri).ids = room.ids := by
  unfold discard
  split <;> rfl

theorem start_crew (room : Room τ) (task : Task τ) :
    (room.start task).crew.Perm ((task, none) :: room.crew) := by
  simp only [crew, start, List.map_append, List.map_cons, List.map_nil, List.append_assoc]
  exact List.perm_middle

theorem cancelRunnable_member (r : Runnable τ) :
    ((cancelRunnable r).task, (cancelRunnable r).wake.ticket?) = (r.task, r.wake.ticket?) := by
  obtain ⟨task, wake, n⟩ := r
  cases wake <;> rfl

theorem cancelInPlace_member (id : String) (r : Runnable τ) :
    ((cancelInPlace id r).task, (cancelInPlace id r).wake.ticket?) =
      (r.task, r.wake.ticket?) := by
  unfold cancelInPlace
  split
  · exact cancelRunnable_member r
  · rfl

theorem cancel_crew (room : Room τ) (id : String) : (room.cancel id).crew.Perm room.crew := by
  refine (wakeWhere_crew _ _ handoffs.cancelled fun _ => rfl).trans ?_
  apply crew_of_queue room
  simp only [cancelQueue, List.map_append, List.map_map, Function.comp_def, cancelInPlace_member,
    cancelRunnable_member]
  rw [← List.map_append]
  exact (List.perm_append_comm.trans (List.filter_append_perm _ _)).map _

/-- Whoever stands in the queue comes first in some order of the crew. -/
theorem crew_perm_of_queue {room : Room τ} {before after : List (Runnable τ)} {r : Runnable τ}
    (h : room.queue = before ++ r :: after) :
    room.crew.Perm ((r.task, r.wake.ticket?) ::
      ({ room with queue := before ++ after } : Room τ).crew) := by
  have hqueue : room.queue.Perm (r :: (before ++ after)) := h ▸ List.perm_middle
  exact (hqueue.map fun r => (r.task, r.wake.ticket?)).append_right _

theorem handOn_crew {room : Room τ} {before after : List (Runnable τ)} {r : Runnable τ} (n : Nat)
    (h : room.queue = before ++ r :: after) :
    ({ room with queue := before ++ after ++ [{ r with handoffs := n }] } : Room τ).crew.Perm
      room.crew := by
  refine List.Perm.trans ?_ (crew_perm_of_queue h).symm
  simp only [crew, List.map_append, List.map_cons, List.map_nil, List.append_assoc]
  rw [← List.append_assoc, ← List.append_assoc (List.map _ before)]
  exact List.perm_middle

/-! ## Turns -/

variable [Clock τ]

theorem enter_crew (room : Room τ) (task : Task τ) (timeout : τ) :
    ∃ ticket, (room.enter task timeout).crew.Perm ((task, some ticket) :: room.crew) := by
  refine ⟨⟨(room.index.enter task.uri).2, timeout⟩, ?_⟩
  have hqueued : ∀ (index : Index) (ticket : Ticket τ) (n : Nat),
      ({ room with index, queue := room.queue ++ [⟨task, .expired ticket, n⟩] } :
        Room τ).crew.Perm ((task, some ticket) :: room.crew) := by
    intro index ticket n
    simp only [crew, List.map_append, List.map_cons, List.map_nil, List.append_assoc]
    exact List.perm_middle
  unfold enter
  dsimp only
  split
  · exact hqueued _ _ _
  · split
    · simp only [crew, List.map_append, List.map_cons, List.map_nil]
      rw [← List.append_assoc]
      exact List.perm_append_singleton _ _
    · exact hqueued _ _ _

/-- Whoever begins to wait writes nothing and does not end. -/
theorem enter_keeps (room : Room τ) (task : Task τ) (timeout : τ) :
    (room.enter task timeout).emissions = room.emissions ∧
    (room.enter task timeout).finished = room.finished ∧
    (room.enter task timeout).requests = room.requests := by
  unfold enter
  dsimp only
  split
  · exact ⟨rfl, rfl, rfl⟩
  · split <;> exact ⟨rfl, rfl, rfl⟩

/-- A request for an outline gets the next id when it begins. It writes nothing; it ends at once, or
it goes on under its id. -/
theorem begin_outline (room : Room τ) {task : Task τ} {patience : Patience τ}
    (hgoal : task.goal = .outline patience) :
    (room.begin task).requests = room.requests + 1 ∧
    (room.begin task).emissions = room.emissions ∧
    ((room.begin task).crew = room.crew ∧
        (∃ outcome, (room.begin task).finished = room.finished ++ [(task.id, outcome)]) ∨
      (room.begin task).finished = room.finished ∧
        ∃ ticket, (room.begin task).crew.Perm
          (({ task with request := some room.newRequest.2 }, some ticket) :: room.crew)) := by
  have hid : room.identify task =
      (room.newRequest.1, { task with request := some room.newRequest.2 }) := by
    simp only [identify, hgoal]
  simp only [begin, hid]
  split
  · exact ⟨rfl, rfl, Or.inl ⟨rfl, _, rfl⟩⟩
  · split
    · next timeout htimeout =>
      obtain ⟨hemissions, hfinished, hrequests⟩ := enter_keeps room.newRequest.1
        { task with request := some room.newRequest.2 } timeout
      exact ⟨hrequests, hemissions, Or.inr ⟨hfinished, enter_crew _ _ _⟩⟩
    · exact ⟨rfl, rfl, Or.inl ⟨rfl, _, rfl⟩⟩

/-- Whoever was woken, or given up before it began, ends in its turn. What it writes it writes under
its own id, and it writes nothing if it never began. -/
theorem resume_ends (room : Room τ) (task : Task τ) {wake : Wake τ} (hw : wake ≠ .begin) :
    (room.resume task wake).requests = room.requests ∧
    (room.resume task wake).crew = room.crew ∧
    (∃ outcome, (room.resume task wake).finished = room.finished ++ [(task.id, outcome)]) ∧
    ∃ records : List Record, (wake.ticket? = none → records = []) ∧
      (room.resume task wake).emissions =
        room.emissions ++ records.map fun record => ⟨task.request, record⟩ := by
  have hr := room.resumed task wake
  generalize room.resume task wake = room' at hr
  cases hr with
  | left records hticket => exact ⟨rfl, rfl, ⟨_, rfl⟩, records, by simp [hticket], rfl⟩
  | abandoned => exact ⟨rfl, rfl, ⟨_, rfl⟩, [], fun _ => rfl, (List.append_nil _).symm⟩
  | served | refused | hurried | asleep => exact absurd rfl hw

/-- No turn changes where request ids come from. -/
theorem resume_ids (room : Room τ) (task : Task τ) (wake : Wake τ) :
    (room.resume task wake).ids = room.ids := by
  have hr := room.resumed task wake
  generalize room.resume task wake = room' at hr
  cases hr <;> rfl

end PerlSymbols.Room
