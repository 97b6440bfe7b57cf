import PerlSymbols.Proofs.Waiting.Wakeup
import Mathlib.Data.List.Induction

/-!
# Runs

What every operation keeps, a run keeps; and to let time pass is a run of its own, from one deadline
to the next.
-/

namespace PerlSymbols.Room

variable {τ : Type} [Clock τ]

theorem after_snoc (docs : List Document) (ops : List (Op τ)) (op : Op τ) :
    after docs (ops ++ [op]) = (after docs ops).apply op := by
  simp [after, carryOut]

/-- What each operation keeps, a run keeps. -/
theorem after_keep {P : Room τ → Prop} (docs : List Document)
    (hopened : P (ofIndex (Index.ofDocuments docs)))
    (happly : ∀ (room : Room τ) (op : Op τ), P room → P (room.apply op)) (ops : List (Op τ)) :
    P (after docs ops) := by
  induction ops using List.reverseRecOn with
  | nil => exact hopened
  | append_singleton ops op ih =>
    rw [after_snoc]
    exact happly _ op ih

theorem reachable_after (docs : List Document) (ops : List (Op τ)) :
    (after docs ops).Reachable := by
  refine after_keep docs (.opened docs) ?_ ops
  intro room op h
  cases op with
  | publish request doc => exact h.step (.publish request doc)
  | discard request uri => exact h.step (.discard request uri)
  | start task => exact h.step (.start task)
  | cancel id => exact h.step (.cancel id)
  | settle => exact h.settle
  | moveOn instant => exact (h.moveTo instant).settle

/-! ## Operations in which the tasks have their turns -/

/-- The room in which the turns of an operation begin. -/
def roused (room : Room τ) : Op τ → Room τ
  | .moveOn instant => room.moveTo instant
  | _ => room

theorem apply_of_settles (room : Room τ) {op : Op τ} (h : op.settles = true) :
    room.apply op = (room.roused op).settle := by
  cases op with
  | settle | moveOn instant => rfl
  | publish | discard | start | cancel => cases h

omit [Clock τ] in
theorem publishes_of_settles {op : Op τ} (h : op.settles = true) (uri : String) :
    op.publishes uri = false := by
  cases op with
  | settle | moveOn instant => rfl
  | publish | discard | start | cancel => cases h

theorem roused_index (room : Room τ) (op : Op τ) : (room.roused op).index = room.index := by
  cases op <;> rfl

theorem roused_finished (room : Room τ) (op : Op τ) :
    (room.roused op).finished = room.finished := by
  cases op <;> rfl

theorem mem_roused_queue_of_mem {room : Room τ} (op : Op τ) {r : Runnable τ} (h : r ∈ room.queue) :
    r ∈ (room.roused op).queue := by
  cases op with
  | moveOn instant => exact List.mem_append_left _ h
  | publish | discard | start | cancel | settle => exact h

/-- Only deadlines that are reached bring new tasks to the queue. -/
theorem mem_roused_queue {room : Room τ} {op : Op τ} {r : Runnable τ}
    (h : r ∈ (room.roused op).queue) :
    r ∈ room.queue ∨ ∃ b ∈ room.blocked, r = ⟨b.task, .expired b.ticket, handoffs.expired⟩ ∧
      Clock.le b.deadline (room.roused op).now = true := by
  cases op with
  | moveOn instant =>
    rcases List.mem_append.mp h with h | h
    · exact Or.inl h
    · obtain ⟨b, hb, rfl⟩ := List.mem_map.mp h
      obtain ⟨hb, hle⟩ := List.mem_filter.mp hb
      exact Or.inr ⟨b, hb, rfl, hle⟩
  | publish | discard | start | cancel | settle => exact Or.inl h

/-- Nobody begins but who was about to before. -/
theorem begin_of_roused {room : Room τ} {op : Op τ} {call : Task τ} {n : Nat}
    (h : ⟨call, .begin, n⟩ ∈ (room.roused op).queue) : ⟨call, .begin, n⟩ ∈ room.queue := by
  rcases mem_roused_queue h with h | ⟨_, _, he, -⟩
  · exact h
  · cases he

theorem mem_of_mem_roused_blocked {room : Room τ} {op : Op τ} {b : Blocked τ}
    (h : b ∈ (room.roused op).blocked) : b ∈ room.blocked := by
  cases op with
  | moveOn instant => exact (List.mem_filter.mp h).1
  | publish | discard | start | cancel | settle => exact h

/-! ## Passing time -/

/-- The stops of the clock on the way to an instant, from a room in which nobody can run. -/
def strides (target : τ) : Nat → Room τ → List (Op τ)
  | 0, _ => []
  | fuel + 1, room =>
    match room.nextDeadline? with
    | some deadline =>
      if Clock.le deadline target then
        .moveOn deadline :: strides target fuel (room.apply (.moveOn deadline))
      else [.moveOn target]
    | none => [.moveOn target]

theorem settles_of_mem_strides {target : τ} {fuel : Nat} {room : Room τ} {op : Op τ}
    (h : op ∈ strides target fuel room) : op.settles = true := by
  induction fuel generalizing room with
  | zero => cases h
  | succ fuel ih =>
    unfold strides at h
    split at h
    · split at h
      · rcases List.mem_cons.mp h with rfl | h
        · rfl
        · exact ih h
      · rw [List.mem_singleton.mp h]
        rfl
    · rw [List.mem_singleton.mp h]
      rfl

/-- To let time pass is to move the clock on, from deadline to deadline. -/
theorem passTo_eq_carryOut (target : τ) (fuel : Nat) (room : Room τ) :
    (passTo target fuel room).settle = room.settle.carryOut (strides target fuel room.settle) := by
  induction fuel generalizing room with
  | zero => rfl
  | succ fuel ih =>
    simp only [passTo, strides]
    cases room.settle.nextDeadline? with
    | none => rfl
    | some deadline =>
      by_cases hle : Clock.le deadline target = true
      · simp only [hle, if_true]
        exact ih (room.settle.moveTo deadline)
      · simp only [hle, Bool.false_eq_true, if_false]
        rfl

/-- What a caller does who sleeps for a duration. -/
def stridesOf (room : Room τ) (duration : τ) : List (Op τ) :=
  if Clock.le duration Clock.nothing then [.settle]
  else .settle :: strides (Clock.add room.now duration)
    (room.queue.length + room.blocked.length + 1) room.settle

theorem carryOut_stridesOf (room : Room τ) (duration : τ) :
    room.carryOut (room.stridesOf duration) = room.advance duration := by
  unfold stridesOf advance
  split
  · rfl
  · exact (passTo_eq_carryOut ..).symm

theorem advance_eq_carryOut (room : Room τ) (duration : τ) :
    ∃ ops : List (Op τ), (∀ op ∈ ops, op.settles = true) ∧
      room.advance duration = room.carryOut ops := by
  refine ⟨room.stridesOf duration, ?_, (carryOut_stridesOf room duration).symm⟩
  intro op hop
  unfold stridesOf at hop
  split at hop
  · rw [List.mem_singleton.mp hop]
    rfl
  · rcases List.mem_cons.mp hop with rfl | hop
    · rfl
    · exact settles_of_mem_strides hop

end PerlSymbols.Room
