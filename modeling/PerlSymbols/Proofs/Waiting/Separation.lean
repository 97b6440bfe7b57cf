import PerlSymbols.Proofs.Waiting.Passing

/-!
# URIs do not interfere

If everything that concerns other URIs is left out of a run, each task of a URI still ends as it
did, and when it did. The clock may make fewer stops then, but it never misses one of the URI's own
deadlines.
-/

namespace PerlSymbols.Room

variable {τ : Type} [Clock τ] {owner : String → String} {uri : String} {room : Room τ}

/-! ## Two rooms that look the same -/

theorem Sound.apply (horders : Clock.Orders τ) (h : room.Sound owner) {op : Op τ}
    (hstart : ∀ task, op = .start task → owner task.id = task.uri) :
    (room.apply op).Sound owner := by
  cases op with
  | publish request doc => exact h.publish request doc
  | discard request uri => exact h.discard request uri
  | start task => exact h.start (hstart task rfl)
  | cancel id => exact h.cancel id
  | settle => exact h.settle horders
  | moveOn instant => exact h.moveOn horders instant

theorem Sound.carryOut (horders : Clock.Orders τ) {ops : List (Op τ)} (h : room.Sound owner)
    (hops : ∀ op ∈ ops, op.settles = true) : (room.carryOut ops).Sound owner := by
  induction ops generalizing room with
  | nil => exact h
  | cons op ops ih =>
    obtain ⟨hop, hops⟩ := List.forall_mem_cons.mp hops
    refine ih (h.apply horders ?_) hops
    rintro task rfl
    cases hop

/-- An operation concerns a URI unless it is for another one. -/
def Op.concerns (owner : String → String) (uri : String) : Op τ → Bool
  | .publish _ doc => doc.uri == uri
  | .discard _ uri' => uri' == uri
  | .start task => task.uri == uri
  | .cancel id => owner id == uri
  | .settle | .moveOn _ => true

/-- The clocks show the same time, and so does the desk of the URI. -/
structure Agree (owner : String → String) (uri : String) (room room' : Room τ) : Prop where
  sound : room.Sound owner
  sound' : room'.Sound owner
  now : room.now = room'.now
  desk : room.desk owner uri = room'.desk owner uri

variable {room' : Room τ}

theorem now_apply_of_not_settles (room : Room τ) {op : Op τ} (h : op.settles = false) :
    (room.apply op).now = room.now := by
  cases op with
  | publish | start | cancel => rfl
  | discard request uri =>
    simp only [apply, discard]
    split <;> rfl
  | settle | moveOn => cases h

/-- What concerns the URI goes the same way in both rooms. -/
theorem Agree.apply (horders : Clock.Orders τ) (h : Agree owner uri room room') {op : Op τ}
    (hstart : ∀ task, op = .start task → owner task.id = task.uri)
    (hop : op.concerns owner uri = true) : Agree owner uri (room.apply op) (room'.apply op) := by
  refine ⟨h.sound.apply horders hstart, h.sound'.apply horders hstart, ?_, ?_⟩
  · cases op with
    | settle => exact (settle_now room).trans (h.now.trans (settle_now room').symm)
    | moveOn instant => exact (settle_now _).trans (settle_now (room'.moveTo instant)).symm
    | publish | discard | start | cancel =>
      rw [now_apply_of_not_settles _ rfl, now_apply_of_not_settles _ rfl, h.now]
  · cases op with
    | publish request doc =>
      have hu : doc.uri = uri := by simpa [Op.concerns] using hop
      simp only [Room.apply, desk_publish_own _ request hu, h.desk]
    | discard request uri' =>
      obtain rfl : uri' = uri := by simpa [Op.concerns] using hop
      simp only [Room.apply, desk_discard_own, h.desk]
    | start task =>
      have hu : task.uri = uri := by simpa [Op.concerns] using hop
      simp only [Room.apply, desk_start_own _ hu, h.desk]
    | cancel id => simp only [Room.apply, desk_cancel, h.desk]
    | settle =>
      have hsettles := desk_settle uri h.sound'
      rw [← h.desk, ← h.now] at hsettles
      exact (desk_settle uri h.sound).unique hsettles
    | moveOn instant =>
      have hsettles := desk_moveOn uri h.sound' instant
      rw [← h.desk] at hsettles
      exact (desk_moveOn uri h.sound instant).unique hsettles

theorem desk_apply_other (h : room.Sound owner) {op : Op τ} (hop : op.concerns owner uri = false) :
    (room.apply op).desk owner uri = room.desk owner uri := by
  cases op with
  | publish request doc =>
    exact desk_publish_other room h.kept request (by simpa [Op.concerns] using hop)
  | discard request uri' => exact desk_discard_other room request (by simpa [Op.concerns] using hop)
  | start task => exact desk_start_other room (by simpa [Op.concerns] using hop)
  | cancel id =>
    have hne : owner id ≠ uri := by simpa [Op.concerns] using hop
    refine (desk_cancel room id).trans (cancel_other ?_ ?_)
    · rintro _ hm rfl
      obtain ⟨r, hmem, rfl⟩ := List.mem_map.mp hm
      obtain ⟨hr, hu⟩ := List.mem_filter.mp hmem
      exact hne ((h.queued r hr).trans (of_decide_eq_true hu))
    · rintro _ hm rfl
      obtain ⟨b, hmem, rfl⟩ := List.mem_map.mp hm
      obtain ⟨hb, hu⟩ := List.mem_filter.mp hmem
      exact hne ((h.asleep b hb).trans (of_decide_eq_true hu))
  | settle | moveOn => cases hop

theorem Agree.apply_other (horders : Clock.Orders τ) (h : Agree owner uri room room') {op : Op τ}
    (hstart : ∀ task, op = .start task → owner task.id = task.uri)
    (hop : op.concerns owner uri = false) : Agree owner uri (room.apply op) room' := by
  refine ⟨h.sound.apply horders hstart, h.sound', ?_, ?_⟩
  · rw [now_apply_of_not_settles, h.now]
    cases op with
    | settle | moveOn => cases hop
    | publish | discard | start | cancel => rfl
  · rw [desk_apply_other h.sound hop, h.desk]

/-- Of an operation that goes the same way in both rooms, the same endings come. -/
theorem Agree.endings_cons {op : Op τ} {ops ops' : List (Op τ)} (h : Agree owner uri room room')
    (hop : Agree owner uri (room.apply op) (room'.apply op))
    (hrest : List.Forall₂ Ending.Same (endingsAt owner uri (room.apply op) ops)
      (endingsAt owner uri (room'.apply op) ops')) :
    List.Forall₂ Ending.Same (endingsAt owner uri room (op :: ops))
      (endingsAt owner uri room' (op :: ops')) := by
  rw [endingsAt_cons, endingsAt_cons, ← h.desk, ← hop.desk, ← hop.now]
  exact List.rel_append (Desk.endings_same (Clock.same_refl _) _ _) hrest

omit [Clock τ] in
theorem sleepersToCome_le (room : Room τ) :
    room.sleepersToCome ≤ room.queue.length + room.blocked.length := by
  have : room.queue.countP (fun r => r.wake.ticket?.isNone) ≤ room.queue.length :=
    List.countP_le_length
  unfold sleepersToCome
  omega

/-- Time passes in both rooms, though they may stop at different instants on the way. -/
theorem Agree.advance (hlines : Clock.Lines τ) (h : Agree owner uri room room') (duration : τ) :
    Agree owner uri (room.carryOut (room.stridesOf duration))
        (room'.carryOut (room'.stridesOf duration)) ∧
      List.Forall₂ Ending.Same (endingsAt owner uri room (room.stridesOf duration))
        (endingsAt owner uri room' (room'.stridesOf duration)) := by
  have hsettled : Agree owner uri (room.apply .settle) (room'.apply .settle) :=
    h.apply hlines.orders (by simp) rfl
  unfold stridesOf
  split
  · exact ⟨hsettled, h.endings_cons hsettled .nil⟩
  · have htarget : Clock.IsSum (Clock.add room.now duration) := ⟨_, _, rfl⟩
    have hfuel : ∀ room : Room τ, room.settle.sleepersToCome <
        room.queue.length + room.blocked.length + 1 := by
      intro room
      have := sleepersToCome_settle room
      have := sleepersToCome_le room
      omega
    obtain ⟨hpasses, hnow⟩ := desk_strides uri hlines htarget hsettled.sound
      (settle_queue room) (hfuel room)
    obtain ⟨hpasses', hnow'⟩ := desk_strides uri hlines htarget hsettled.sound'
      (settle_queue room') (hfuel room')
    rw [← hsettled.desk] at hpasses'
    obtain ⟨hdesk, hsame⟩ := hpasses.unique hlines htarget hpasses'
    rw [← h.now]
    refine ⟨⟨?_, ?_, hnow.trans hnow'.symm, hdesk⟩, h.endings_cons hsettled hsame⟩
    · exact hsettled.sound.carryOut hlines.orders fun _ => settles_of_mem_strides
    · exact hsettled.sound'.carryOut hlines.orders fun _ => settles_of_mem_strides

/-! ## Runs -/

/-- What a caller does: an operation, to sleep for a duration, or nothing. -/
inductive Move (τ : Type) where
  | make (op : Op τ)
  | advance (duration : τ)
  | idle

/-- An operation for another URI is not done. Time passes for all. -/
def Move.only (owner : String → String) (uri : String) : Move τ → Move τ
  | .make op => if op.concerns owner uri then .make op else .idle
  | .advance duration => .advance duration
  | .idle => .idle

def moved (room : Room τ) : Move τ → Room τ
  | .make op => room.apply op
  | .advance duration => room.advance duration
  | .idle => room

/-- The operations that a move is made of. -/
def Move.ops (room : Room τ) : Move τ → List (Op τ)
  | .make op => [op]
  | .advance duration => room.stridesOf duration
  | .idle => []

def play (room : Room τ) (moves : List (Move τ)) : Room τ :=
  moves.foldl moved room

/-- How and when the tasks of a URI ended in the course of some moves. -/
def endingsOf (owner : String → String) (uri : String) (room : Room τ) :
    List (Move τ) → List (Ending τ)
  | [] => []
  | move :: moves =>
    endingsAt owner uri room (move.ops room) ++ endingsOf owner uri (room.moved move) moves

/-- Of each move the URI sees its own part. -/
theorem Agree.moved (hlines : Clock.Lines τ) (h : Agree owner uri room room') {move : Move τ}
    (hstart : ∀ task, move = .make (.start task) → owner task.id = task.uri) :
    Agree owner uri (room.moved move) (room'.moved (move.only owner uri)) ∧
      List.Forall₂ Ending.Same (endingsAt owner uri room (move.ops room))
        (endingsAt owner uri room' ((move.only owner uri).ops room')) := by
  cases move with
  | idle => exact ⟨h, .nil⟩
  | advance duration =>
    have hadvance := h.advance hlines duration
    rw [carryOut_stridesOf, carryOut_stridesOf] at hadvance
    exact hadvance
  | make op =>
    have hstart' : ∀ task, op = .start task → owner task.id = task.uri :=
      fun task he => hstart task (congrArg Move.make he)
    by_cases hop : op.concerns owner uri = true
    · have happly := h.apply hlines.orders hstart' hop
      simp only [Move.only, hop, if_true]
      exact ⟨happly, h.endings_cons happly .nil⟩
    · have hother : op.concerns owner uri = false := by simpa using hop
      have hnone : endingsAt owner uri room [op] = [] := by
        rw [endingsAt_cons, desk_apply_other h.sound hother, Desk.endings_self]
        rfl
      simp only [Move.only, hop, Bool.false_eq_true, if_false, Move.ops, hnone]
      exact ⟨h.apply_other hlines.orders hstart' hother, .nil⟩

theorem Agree.play (hlines : Clock.Lines τ) (h : Agree owner uri room room') {moves : List (Move τ)}
    (hstarts : ∀ task, .make (.start task) ∈ moves → owner task.id = task.uri) :
    Agree owner uri (room.play moves) (room'.play (moves.map (Move.only owner uri))) ∧
      List.Forall₂ Ending.Same (endingsOf owner uri room moves)
        (endingsOf owner uri room' (moves.map (Move.only owner uri))) := by
  induction moves generalizing room room' with
  | nil => exact ⟨h, .nil⟩
  | cons move moves ih =>
    obtain ⟨hmoved, hends⟩ := h.moved hlines
      fun task he => hstarts task (he ▸ List.mem_cons_self)
    obtain ⟨hplay, hrest⟩ := ih hmoved fun task hm => hstarts task (List.mem_cons_of_mem _ hm)
    exact ⟨hplay, List.rel_append hends hrest⟩

/-- A room that was opened with some documents. -/
def opened (docs : List Document) : Room τ :=
  ofIndex (Index.ofDocuments docs)

/-- **URIs do not interfere.** Take any run, a URI, and a point of the run. If what concerns other
URIs is not done, then up to that point every task of the URI has ended with the same outcome at the
same time, and its document, its count and whether it has a signal are the same. The id of a task
tells which URI it waits for, so that a cancellation is for one URI. -/
theorem uris_do_not_interfere (docs : List Document) (moves : List (Move Seconds))
    (owner : String → String) (uri : String)
    (hstarts : ∀ task, .make (.start task) ∈ moves → owner task.id = task.uri) (n : Nat) :
    let full := moves.take n
    let own := (moves.map (Move.only owner uri)).take n
    ((opened docs).play own).index.get? uri = ((opened docs).play full).index.get? uri ∧
    (((opened docs).play own).index.ready.get? uri).isSome =
      (((opened docs).play full).index.ready.get? uri).isSome ∧
    ((opened docs).play own).index.waiting.get? uri =
      ((opened docs).play full).index.waiting.get? uri ∧
    ((opened docs).play own).now = ((opened docs).play full).now ∧
    List.Forall₂ Ending.Same (endingsOf owner uri (opened docs) full)
      (endingsOf owner uri (opened docs) own) := by
  intro full own
  have hsound : Sound owner (opened docs : Room Seconds) := by
    refine ⟨(Reachable.opened docs).kept, ?_, ?_, ?_⟩ <;> simp [opened, ofIndex]
  have hagree : Agree owner uri (opened docs : Room Seconds) (opened docs) :=
    ⟨hsound, hsound, rfl, rfl⟩
  obtain ⟨hplay, hends⟩ := hagree.play Seconds.lines
    fun task hm => hstarts task (List.mem_of_mem_take (show _ ∈ moves.take n from hm))
  rw [List.map_take] at hplay hends
  have hdesk := hplay.desk.symm
  exact ⟨congrArg Desk.doc hdesk, congrArg Desk.ready hdesk, congrArg Desk.waiting hdesk,
    hplay.now.symm, hends⟩

/-- Two tasks sleep for different documents until the same instant. The one is cancelled and its
document is published; without all that, the other one is given up just as well. -/
theorem uris_do_not_interfere_tie :
    let sleep := fun id uri =>
      Move.make (.start (⟨id, uri, .wait (.whole 2), none⟩ : Task Seconds))
    let moves := [sleep "b" "file:///B.pm", sleep "a" "file:///A.pm", .make .settle,
      .make (.cancel "b"), .make (.publish none { uri := "file:///B.pm" }), .advance (.whole 3)]
    let owner := fun id => if id = "a" then "file:///A.pm" else "file:///B.pm"
    let own := (moves.map (Move.only owner "file:///A.pm")).take 6
    (endingsOf owner "file:///A.pm" (opened []) (moves.take 6)).length = 1 ∧
      (endingsOf owner "file:///A.pm" (opened []) own).length = 1 := by
  intro sleep moves owner own
  have hstarts : ∀ task, .make (.start task) ∈ moves → owner task.id = task.uri := by
    intro task hm
    simp only [moves, sleep, List.mem_cons, Move.make.injEq, Op.start.injEq, reduceCtorEq,
      List.not_mem_nil, or_false] at hm
    rcases hm with rfl | rfl
    · rfl
    · rfl
  have hone : (endingsOf owner "file:///A.pm" (opened []) (moves.take 6)).length = 1 := by
    subst moves sleep owner
    decide +kernel
  have hsame := uris_do_not_interfere [] moves owner "file:///A.pm" hstarts 6
  exact ⟨hone, hsame.2.2.2.2.length_eq ▸ hone⟩

end PerlSymbols.Room
