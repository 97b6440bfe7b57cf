import PerlSymbols.Index.Running
import PerlSymbols.Proofs.Waiting.Seats

/-!
# No wake-up is lost

Here the tasks that can run have their turns in any order, and deadlines may be reached at any
time. Whoever sleeps still waits for the very signal that the next publication of its document
gives, so that publication wakes it, and it finds the document if it is there when it resumes.
-/

namespace PerlSymbols.Room

variable {τ : Type} [Clock τ]

/-! ## The books along a run -/

omit [Clock τ] in
/-- The seat of a task in the queue comes first in some order of the seats. -/
theorem seats_perm_of_queue {room : Room τ} {before after : List (Runnable τ)} {r : Runnable τ}
    (h : room.queue = before ++ r :: after) :
    room.seats.Perm (r.seat?.toList ++ ({ room with queue := before ++ after } : Room τ).seats) := by
  rw [seats_eq, seats_eq]
  refine ((crew_perm_of_queue h).filterMap _).trans ?_
  rw [List.filterMap_cons, Runnable.seat?]
  cases r.wake.ticket? <;> exact List.Perm.refl _

omit [Clock τ] in
theorem handOn_seats {room : Room τ} {before after : List (Runnable τ)} {r : Runnable τ} (n : Nat)
    (h : room.queue = before ++ r :: after) :
    ({ room with queue := before ++ after ++ [{ r with handoffs := n }] } : Room τ).seats.Perm
      room.seats := by
  rw [seats_eq, seats_eq]
  exact (handOn_crew n h).filterMap _

theorem Kept.step {room room' : Room τ} (h : room.Kept) (hs : Step room room') : room'.Kept := by
  cases hs with
  | publish request doc => exact h.publish request doc
  | discard request uri => exact h.discard request uri
  | start task => exact h.start task
  | cancel id => exact h.cancel id
  | expire which count => exact h.wakeWhere which count fun _ => rfl
  | elapse instant => exact ⟨h.books, h.awaited⟩
  | handOn n hq => exact ⟨h.books.perm (handOn_seats n hq).symm, h.awaited⟩
  | @resume before r after hq =>
    have hr := Room.resumed { room with queue := before ++ after } r.task r.wake
    exact Kept.resumed hr (h.books.perm (seats_perm_of_queue hq)) h.awaited

theorem Reachable.kept {room : Room τ} (h : room.Reachable) : room.Kept := by
  induction h with
  | opened docs => exact ⟨Index.keeps_ofDocuments docs, by simp [ofIndex]⟩
  | step _ hs ih => exact ih.step hs

/-! ## Turns in the order of the queue are among the steps -/

theorem turn_step (room : Room τ) : room.turn = room ∨ Step room room.turn := by
  unfold turn
  split
  · exact Or.inl rfl
  · next hq => exact Or.inr (.resume (show room.queue = [] ++ _ :: _ from hq))
  · next n rest hq => exact Or.inr (.handOn n (show room.queue = [] ++ _ :: _ from hq))

/-- What every step keeps, a settling room keeps. -/
theorem settle_keep {P : Room τ → Prop}
    (hstep : ∀ room room' : Room τ, P room → Step room room' → P room') {room : Room τ}
    (h : P room) : P room.settle := by
  refine turns_keep ?_ _ _ h
  intro room h
  rcases room.turn_step with he | hs
  · exact he.symm ▸ h
  · exact hstep room _ h hs

theorem Reachable.settle {room : Room τ} (h : room.Reachable) : room.settle.Reachable :=
  settle_keep (fun _ _ => Reachable.step) h

theorem Reachable.turn {room : Room τ} (h : room.Reachable) : room.turn.Reachable := by
  rcases room.turn_step with he | hs
  · exact he.symm ▸ h
  · exact h.step hs

theorem Reachable.moveTo {room : Room τ} (h : room.Reachable) (instant : τ) :
    (room.moveTo instant).Reachable :=
  (h.step (.elapse instant)).step (.expire _ _)

theorem Kept.settle {room : Room τ} (h : room.Kept) : room.settle.Kept :=
  settle_keep (fun _ _ => Kept.step) h

theorem Kept.moveTo {room : Room τ} (h : room.Kept) (instant : τ) : (room.moveTo instant).Kept :=
  (h.step (.elapse instant)).step (.expire _ _)

/-! ## Whoever was woken stays woken -/

omit [Clock τ] in
theorem shorten_eq (signal : Option Nat) (r : Runnable τ) :
    ∃ n, n ≤ r.handoffs ∧ shorten signal r = { r with handoffs := n } := by
  unfold shorten
  split
  · split
    · exact ⟨_, Nat.min_le_left .., rfl⟩
    · exact ⟨r.handoffs, Nat.le_refl _, rfl⟩
  · exact ⟨r.handoffs, Nat.le_refl _, rfl⟩

omit [Clock τ] in
theorem mem_cancel_queue {room : Room τ} {r : Runnable τ} (h : r ∈ room.queue) (id : String) :
    r ∈ (room.cancel id).queue ∨ cancelRunnable r ∈ (room.cancel id).queue := by
  simp only [cancel, wakeWhere, cancelQueue, List.mem_append, List.mem_map, List.mem_filter]
  by_cases hm : r.task.id == id
  · right
    by_cases hh : isHastened r
    · exact Or.inl (Or.inr ⟨r, ⟨h, by simp [hm, hh]⟩, rfl⟩)
    · exact Or.inl (Or.inl ⟨r, ⟨h, by simp [hh]⟩, by simp [cancelInPlace, hm]⟩)
  · left
    exact Or.inl (Or.inl ⟨r, ⟨h, by simp [hm]⟩, by simp [cancelInPlace, hm]⟩)

omit [Clock τ] in
theorem publish_stays {room : Room τ} {r : Runnable τ} (hr : r ∈ room.queue)
    (request : Option String) (doc : Document) :
    ∃ n, ⟨r.task, r.wake, n⟩ ∈ (room.publish request doc).queue := by
  obtain ⟨n, -, he⟩ := shorten_eq (room.index.ready.get? doc.uri) r
  exact ⟨n, List.mem_append_left _ (List.mem_map.mpr ⟨r, hr, he⟩)⟩

omit [Clock τ] in
theorem discard_queue (room : Room τ) (request : Option String) (uri : String) :
    (room.discard request uri).queue = room.queue := by
  unfold discard
  split <;> rfl

omit [Clock τ] in
theorem discard_blocked (room : Room τ) (request : Option String) (uri : String) :
    (room.discard request uri).blocked = room.blocked := by
  unfold discard
  split <;> rfl

omit [Clock τ] in
theorem cancel_stays {room : Room τ} {r : Runnable τ} (hr : r ∈ room.queue) {ticket : Ticket τ}
    (hw : r.wake = .published ticket) (id : String) :
    ∃ n, ⟨r.task, r.wake, n⟩ ∈ (room.cancel id).queue := by
  rcases mem_cancel_queue hr id with h | h
  · exact ⟨r.handoffs, h⟩
  · have he : cancelRunnable r = ⟨r.task, r.wake, 0⟩ := by
      unfold cancelRunnable
      split <;> simp_all
    exact ⟨0, he ▸ h⟩

/-- Neither a deadline nor a cancellation takes a publication back from the task it woke. -/
theorem Step.published_stays {room room' : Room τ} (hs : Step room room') {r : Runnable τ}
    (hr : r ∈ room.queue) {ticket : Ticket τ} (hw : r.wake = .published ticket) :
    (∃ n, ⟨r.task, r.wake, n⟩ ∈ room'.queue) ∨
      ∃ before after, room.queue = before ++ r :: after ∧
        room' = { room with queue := before ++ after }.resume r.task r.wake := by
  cases hs with
  | publish request doc => exact Or.inl (publish_stays hr request doc)
  | discard request uri =>
    rw [discard_queue]
    exact Or.inl ⟨r.handoffs, hr⟩
  | start task => exact Or.inl ⟨r.handoffs, List.mem_append_left _ hr⟩
  | cancel id => exact Or.inl (cancel_stays hr hw id)
  | expire which count => exact Or.inl ⟨r.handoffs, List.mem_append_left _ hr⟩
  | elapse instant => exact Or.inl ⟨r.handoffs, hr⟩
  | @handOn before r' after n hq =>
    left
    rw [hq] at hr
    rcases List.mem_append.mp hr with h | h
    · exact ⟨r.handoffs, by simp [h]⟩
    · rcases List.mem_cons.mp h with rfl | h
      · exact ⟨n, by simp⟩
      · exact ⟨r.handoffs, by simp [h]⟩
  | @resume before r' after hq =>
    rw [hq] at hr
    by_cases he : r = r'
    · exact Or.inr ⟨before, after, he ▸ hq, by rw [he]⟩
    · have hmem : r ∈ before ++ after := by
        rcases List.mem_append.mp hr with h | h
        · exact List.mem_append_left _ h
        · exact List.mem_append_right _ ((List.mem_cons.mp h).resolve_left he)
      exact Or.inl ⟨r.handoffs, (resumed _ _ _).mem_queue hmem⟩

/-! ## The theorem -/

/-- **No lost wake-up.** Whoever sleeps waits for the signal that is kept for its URI; an indexed
URI has no signal and nobody sleeps for it; so a publication wakes all who sleep for its document,
they stay woken until their turn, and then get the document that is indexed at that moment. -/
theorem no_lost_wakeup {room : Room τ} (h : room.Reachable) :
    (∀ b ∈ room.blocked, room.index.ready.get? b.task.uri = some b.ticket.signal) ∧
    (∀ uri, (room.index.get? uri).isSome →
      room.index.ready.get? uri = none ∧ ∀ b ∈ room.blocked, b.task.uri ≠ uri) ∧
    (∀ request doc,
      (∀ b ∈ room.blocked, b.task.uri = doc.uri →
        ⟨b.task, .published b.ticket, handoffs.published⟩ ∈ (room.publish request doc).queue) ∧
      ∀ b ∈ (room.publish request doc).blocked, b.task.uri ≠ doc.uri) ∧
    (∀ r ∈ room.queue, ∀ ticket, r.wake = .published ticket → ∀ room', Step room room' →
      (∃ n, ⟨r.task, r.wake, n⟩ ∈ room'.queue) ∨
      ∃ before after, room.queue = before ++ r :: after ∧
        room' = { room with queue := before ++ after }.resume r.task r.wake ∧
        ∀ doc, room.index.get? r.task.uri = some doc →
          room'.finished = room.finished ++ [(r.task.id, fulfilled r.task doc)]) := by
  have hkept := h.kept
  refine ⟨hkept.awaited, ?_, ?_, ?_⟩
  · intro uri hi
    exact ⟨hkept.books.silent uri hi, fun b hb => hkept.ne_of_indexed hi hb⟩
  · intro request doc
    exact ⟨fun b hb hu => hkept.publish_wakes request doc hb hu,
      fun b hb => hkept.ne_of_publish request doc hb⟩
  · intro r hr ticket hw room' hs
    rcases hs.published_stays hr hw with hstays | ⟨before, after, hq, he⟩
    · exact Or.inl hstays
    · refine Or.inr ⟨before, after, hq, he, ?_⟩
      intro doc hdoc
      rw [he, hw]
      simp only [resume, hdoc]
      rfl

def waiter (id uri : String) : Task Seconds :=
  ⟨id, uri, .wait (.whole 1), none⟩

/-- A room in which two tasks sleep for one document and a third one for another. -/
def threeSleepers : Room Seconds :=
  ((((ofIndex (Index.ofDocuments [])).start (waiter "a" "file:///A.pm")).start
    (waiter "b" "file:///A.pm")).start (waiter "c" "file:///B.pm")).turn.turn.turn

def arrival : Document := { uri := "file:///A.pm" }

def twoWoken : Room Seconds :=
  threeSleepers.publish none arrival

/-- The publication wakes the two, the third sleeps on, and whoever was woken gets the document. -/
theorem no_lost_wakeup_sleepers :
    threeSleepers.Reachable ∧ threeSleepers.blocked.map (·.task.id) = ["a", "b", "c"] ∧
    (∀ b ∈ threeSleepers.blocked, b.task.uri = arrival.uri →
      ⟨b.task, .published b.ticket, handoffs.published⟩ ∈ twoWoken.queue) ∧
    twoWoken.queue.map (·.task.id) = ["a", "b"] ∧ twoWoken.blocked.map (·.task.id) = ["c"] ∧
    (∀ b ∈ twoWoken.blocked, twoWoken.index.ready.get? b.task.uri = some b.ticket.signal) ∧
    ∀ r ∈ twoWoken.queue, ∀ room, Step twoWoken room →
      (∃ n, ⟨r.task, r.wake, n⟩ ∈ room.queue) ∨
      room.finished = twoWoken.finished ++ [(r.task.id, .document (some arrival))] := by
  have hstarted := (((Reachable.opened []).step (.start (waiter "a" "file:///A.pm"))).step
    (.start (waiter "b" "file:///A.pm"))).step (.start (waiter "c" "file:///B.pm"))
  have hsleepers : threeSleepers.Reachable := hstarted.turn.turn.turn
  have hwoken : twoWoken.Reachable := hsleepers.step (.publish none arrival)
  have hqueue : ∀ r ∈ twoWoken.queue, twoWoken.index.get? r.task.uri = some arrival ∧
      (∃ ticket, r.wake = .published ticket) ∧
      fulfilled r.task arrival = .document (some arrival) := by
    have he : twoWoken.queue =
        [⟨waiter "a" arrival.uri, .published ⟨0, .whole 1⟩, 2⟩,
          ⟨waiter "b" arrival.uri, .published ⟨0, .whole 1⟩, 2⟩] := rfl
    intro r hr
    rw [he] at hr
    rcases List.mem_cons.mp hr with rfl | hr
    · exact ⟨rfl, ⟨_, rfl⟩, rfl⟩
    · rw [List.mem_singleton.mp hr]
      exact ⟨rfl, ⟨_, rfl⟩, rfl⟩
  obtain ⟨hsignals, -, -, hresumed⟩ := no_lost_wakeup hwoken
  refine ⟨hsleepers, rfl, ((no_lost_wakeup hsleepers).2.2.1 none arrival).1, rfl, rfl, hsignals, ?_⟩
  intro r hr room hstep
  obtain ⟨hdoc, ⟨ticket, hwake⟩, hfulfilled⟩ := hqueue r hr
  rcases hresumed r hr ticket hwake room hstep with hstays | ⟨_, _, -, -, hends⟩
  · exact Or.inl hstays
  · exact Or.inr (hfulfilled ▸ hends arrival hdoc)

end PerlSymbols.Room
