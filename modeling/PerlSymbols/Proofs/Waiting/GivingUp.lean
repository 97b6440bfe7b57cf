import PerlSymbols.Proofs.Waiting.Overtaking
import PerlSymbols.Proofs.Waiting.Runs
import PerlSymbols.Proofs.Waiting.Settling

/-!
# When a call is given up

A call that needs a document is given up when its window has passed and no document came. It is also
given up when a document came and was gone again before the call had its turn: what wakes a call is
the publication, but what it gets is what it finds.
-/

namespace PerlSymbols.Room

variable {τ : Type} [Clock τ]

/-- After the run `before`, a call was about to begin, and in the operation `first` it did; `more`
is what came since. -/
structure Stays (docs : List Document) (run : List (Op τ)) (call : Task τ) (window : τ)
    (before : List (Op τ)) (first : Op τ) (more : List (Op τ)) : Prop where
  split : run = before ++ first :: more
  made : .start call ∈ before
  due : ∃ n, ⟨call, .begin, n⟩ ∈ (after docs before).queue
  begins : first.settles = true
  window : timeout? call.goal = some window

theorem Stays.snoc {docs : List Document} {run before more : List (Op τ)} {call : Task τ}
    {window : τ} {first : Op τ} (h : Stays docs run call window before first more) (op : Op τ) :
    Stays docs (run ++ [op]) call window before first (more ++ [op]) where
  split := by rw [h.split, List.append_assoc, List.cons_append]
  made := h.made
  due := h.due
  begins := h.begins
  window := h.window

/-- Whoever sleeps began to wait at some point of the run, and no document came since. -/
def Sleeps (docs : List Document) (ops : List (Op τ)) (b : Blocked τ) : Prop :=
  ∃ call before first more, b.task.Is call ∧
    Stays docs ops call b.ticket.timeout before first more ∧
    b.deadline = Clock.add (after docs (before ++ [first])).now b.ticket.timeout ∧
    ∀ op ∈ more, op.publishes call.uri = false

/-- What the queue of a room tells about a run between two operations. -/
def Waits (docs : List Document) (ops : List (Op τ)) (task : Task τ) : Wake τ → Prop
  | .begin => .start task ∈ ops
  | .published ticket => ∃ call before first more, task.Is call ∧
    Stays docs ops call ticket.timeout before first more ∧
    ∃ op ∈ more, op.publishes call.uri = true
  -- Deadlines are reached only in operations in which the tasks have their turns.
  | .expired _ => False
  | .abandoned | .cancelled _ => True

structure History (docs : List Document) (ops : List (Op τ)) : Prop where
  asleep : ∀ b ∈ (after docs ops).blocked, Sleeps docs ops b
  queued : ∀ r ∈ (after docs ops).queue, Waits docs ops r.task r.wake

theorem Sleeps.snoc {docs : List Document} {ops : List (Op τ)} {b : Blocked τ}
    (h : Sleeps docs ops b) {op : Op τ} (hop : op.publishes b.task.uri = false) :
    Sleeps docs (ops ++ [op]) b := by
  obtain ⟨call, before, first, more, hsame, hstays, hdeadline, hmore⟩ := h
  refine ⟨call, before, first, more ++ [op], hsame, hstays.snoc op, hdeadline, ?_⟩
  intro op' hop'
  rcases List.mem_append.mp hop' with hm | hm
  · exact hmore op' hm
  · rw [List.mem_singleton.mp hm]
    rw [← hsame.uri]
    exact hop

theorem Waits.snoc {docs : List Document} {ops : List (Op τ)} {task : Task τ} {wake : Wake τ}
    (h : Waits docs ops task wake) (op : Op τ) : Waits docs (ops ++ [op]) task wake := by
  cases wake with
  | begin => exact List.mem_append_left _ h
  | published ticket =>
    obtain ⟨call, before, first, more, hsame, hstays, op', hop', hp⟩ := h
    exact ⟨call, before, first, more ++ [op], hsame, hstays.snoc op, op',
      List.mem_append_left _ hop', hp⟩
  | expired ticket => exact h
  | abandoned | cancelled ticket => trivial

/-! ## Between two operations -/

/-- Who sleeps for the document is woken, and who sleeps on waits for another one. -/
theorem History.publish {docs : List Document} {ops : List (Op τ)} (h : History docs ops)
    (request : Option String) (doc : Document) : History docs (ops ++ [.publish request doc]) := by
  have hkept := (reachable_after docs ops).kept
  constructor
  · intro b hb
    rw [after_snoc] at hb
    have hne := hkept.ne_of_publish request doc hb
    exact (h.asleep b (List.mem_filter.mp hb).1).snoc (by simpa [Op.publishes] using Ne.symm hne)
  · intro r hr
    rw [after_snoc] at hr
    rcases List.mem_append.mp hr with hr | hr
    · obtain ⟨r', hr', rfl⟩ := List.mem_map.mp hr
      obtain ⟨n, -, he⟩ := shorten_eq ((after docs ops).index.ready.get? doc.uri) r'
      have hwaits := (h.queued r' hr').snoc (.publish request doc)
      exact (congrArg (fun r : Runnable τ => Waits docs _ r.task r.wake) he).mpr hwaits
    · obtain ⟨b, hb, rfl⟩ := List.mem_map.mp hr
      obtain ⟨hb, hsignal⟩ := List.mem_filter.mp hb
      have huri := hkept.uri_of_signal hb hsignal
      obtain ⟨call, before, first, more, hsame, hstays, -, -⟩ := h.asleep b hb
      refine ⟨call, before, first, _, hsame, hstays.snoc (.publish request doc),
        .publish request doc, by simp, ?_⟩
      simpa [Op.publishes, ← hsame.uri] using huri.symm

theorem History.discard {docs : List Document} {ops : List (Op τ)} (h : History docs ops)
    (request : Option String) (uri : String) : History docs (ops ++ [.discard request uri]) := by
  constructor
  · intro b hb
    rw [after_snoc, apply, discard_blocked] at hb
    exact (h.asleep b hb).snoc rfl
  · intro r hr
    rw [after_snoc, apply, discard_queue] at hr
    exact (h.queued r hr).snoc _

theorem History.start {docs : List Document} {ops : List (Op τ)} (h : History docs ops)
    (task : Task τ) : History docs (ops ++ [.start task]) := by
  constructor
  · intro b hb
    rw [after_snoc] at hb
    exact (h.asleep b hb).snoc rfl
  · intro r hr
    rw [after_snoc] at hr
    rcases List.mem_append.mp hr with hr | hr
    · exact (h.queued r hr).snoc _
    · rw [List.mem_singleton.mp hr]
      exact List.mem_append_right _ (List.mem_singleton_self _)

theorem waits_of_isCancelled (docs : List Document) (ops : List (Op τ)) (task : Task τ)
    {wake : Wake τ} (h : wake.isCancelled = true) : Waits docs ops task wake := by
  cases wake with
  | abandoned | cancelled ticket => trivial
  | begin | published ticket | expired ticket => cases h

theorem History.cancel {docs : List Document} {ops : List (Op τ)} (h : History docs ops)
    (id : String) : History docs (ops ++ [.cancel id]) := by
  constructor
  · intro b hb
    rw [after_snoc] at hb
    exact (h.asleep b (List.mem_filter.mp hb).1).snoc rfl
  · intro r hr
    rw [after_snoc] at hr
    rcases List.mem_append.mp hr with hr | hr
    · obtain ⟨r', hr', ht, -, -, hw⟩ := mem_cancelQueue hr
      rcases hw with hw | ⟨-, hw⟩
      · rw [ht, hw]
        exact (h.queued r' hr').snoc _
      · exact waits_of_isCancelled docs _ _ hw
    · obtain ⟨b, -, rfl⟩ := List.mem_map.mp hr
      trivial

/-- Whoever begins now and finds nothing sleeps from now on. -/
theorem History.settles {docs : List Document} {ops : List (Op τ)} (h : History docs ops)
    {op : Op τ} (hop : op.settles = true) : History docs (ops ++ [op]) := by
  have happly := apply_of_settles (after docs ops) hop
  have hsettling := settling_settle ((after docs ops).roused op)
  rw [← happly, ← after_snoc] at hsettling
  constructor
  · intro b hb
    rcases hsettling.blocked b hb with hold | ⟨call, hc, hdeadline, -⟩
    · exact (h.asleep b (mem_of_mem_roused_blocked hold)).snoc (publishes_of_settles hop _)
    · obtain ⟨n, hm⟩ := hc.due
      have hdue := begin_of_roused hm
      refine ⟨call, ops, op, [], hc.same, ⟨rfl, h.queued _ hdue, ⟨n, hdue⟩, hop, hc.window⟩, ?_, ?_⟩
      · rw [hdeadline, hsettling.now]
      · simp
  · intro r hr
    rw [after_snoc, happly, settle_queue] at hr
    cases hr

theorem history (docs : List Document) (ops : List (Op τ)) : History docs ops := by
  induction ops using List.reverseRecOn with
  | nil => exact ⟨by simp [after, carryOut, ofIndex], by simp [after, carryOut, ofIndex]⟩
  | append_singleton ops op ih =>
    cases op with
    | publish request doc => exact ih.publish request doc
    | discard request uri => exact ih.discard request uri
    | start task => exact ih.start task
    | cancel id => exact ih.cancel id
    | settle | moveOn instant => exact ih.settles rfl

/-! ## Endings -/

omit [Clock τ] in
theorem fulfilled_ne_notIndexed (task : Task τ) (doc : Document) (p : Problem) :
    fulfilled task doc ≠ .failed (.notIndexed p) := by
  unfold fulfilled outlined
  split
  · simp
  · simp
  · split <;> simp

/-- Only a call that needs its document and finds none ends so. -/
theorem notIndexed_of_ending {task : Task τ} {waited : τ} {found : Option Document} {p : Problem}
    (h : ending task waited found = .failed (.notIndexed p)) :
    found = none ∧ ∃ patience, task.goal = .need patience := by
  cases found with
  | some doc => exact absurd h (fulfilled_ne_notIndexed task doc p)
  | none =>
    refine ⟨rfl, ?_⟩
    simp only [ending, disappointed] at h
    split at h
    · cases h
    · next patience hgoal => exact ⟨patience, hgoal⟩
    · simp only [notOutlined] at h
      split at h
      · cases h
      · next hne =>
        simp only [Outcome.failed.injEq] at h
        exact absurd h (hne p)

/-- The tasks that end in an operation after a run. -/
def endedIn (docs : List Document) (ops : List (Op τ)) (op : Op τ) : List (String × Outcome) :=
  ended (after docs ops) (after docs (ops ++ [op]))

theorem endedIn_of_settles (docs : List Document) (ops : List (Op τ)) {op : Op τ}
    (h : op.settles = true) :
    endedIn docs ops op = ended ((after docs ops).roused op) ((after docs ops).roused op).settle := by
  rw [endedIn, after_snoc, apply_of_settles _ h, ended, ended, roused_finished]

theorem endedIn_of_not_settles (docs : List Document) (ops : List (Op τ)) {op : Op τ}
    (h : op.settles = false) : endedIn docs ops op = [] := by
  have hsame : ((after docs ops).apply op).finished = (after docs ops).finished := by
    cases op with
    | publish request doc => rfl
    | discard request uri =>
      rw [apply, discard]
      split <;> rfl
    | start task => rfl
    | cancel id => rfl
    | settle | moveOn instant => cases h
  rw [endedIn, after_snoc, ended, hsame, List.drop_length]

/-- The task has its turn in the operation after a run, and in that turn it ends. -/
def Leaves (docs : List Document) (ops : List (Op τ)) (op : Op τ) (task : Task τ)
    (outcome : Outcome) : Prop :=
  op.settles = true ∧ EndsAtTurn ((after docs ops).roused op) task outcome

/-- Whatever ended was a task that had its turn. -/
theorem ends_of_endedIn {docs : List Document} {ops : List (Op τ)} {op : Op τ} {id : String}
    {outcome : Outcome} (h : (id, outcome) ∈ endedIn docs ops op) :
    ∃ task, task.id = id ∧ Leaves docs ops op task outcome ∧
      Ends ((after docs ops).roused op) task outcome := by
  cases hop : op.settles with
  | false =>
    rw [endedIn_of_not_settles docs ops hop] at h
    cases h
  | true =>
    rw [endedIn_of_settles docs ops hop] at h
    obtain ⟨task, hid, hends, hturn⟩ := (course_settle _).accounted _ h
    exact ⟨task, hid, ⟨hop, hturn⟩, hends⟩

/-- How a call came to be given up: a document came and was gone, or none came and its time was
over. -/
theorem gaveUp_cases {docs : List Document} {ops : List (Op τ)} {last : Op τ} {task : Task τ}
    {p : Problem} (hlast : last.settles = true)
    (hends : Ends ((after docs ops).roused last) task (.failed (.notIndexed p))) :
    ∃ call window before first more, task.Is call ∧ (∃ patience, call.goal = .need patience) ∧
      Stays docs (ops ++ [last]) call window before first more ∧
      (((∃ op ∈ more, op.publishes call.uri = true) ∧ (after docs ops).index.get? call.uri = none) ∨
        (∀ op ∈ more, op.publishes call.uri = false) ∧
          (Clock.le window Clock.nothing = true ∨
            liesAhead (after docs (ops ++ [last])).now
              (Clock.add (after docs (before ++ [first])).now window) = false)) := by
  have hhistory := history docs ops
  have hnow : (after docs (ops ++ [last])).now = ((after docs ops).roused last).now := by
    rw [after_snoc, apply_of_settles _ hlast, (settling_settle _).now]
  generalize he : Outcome.failed (.notIndexed p) = outcome at hends
  cases hends with
  | @parted task wake n hm hw =>
    cases wake with
    | begin => exact absurd rfl hw
    | abandoned | cancelled ticket => cases he
    | published ticket =>
      obtain ⟨hnone, patience, hgoal⟩ := notIndexed_of_ending he.symm
      rcases mem_roused_queue hm with hm | ⟨_, _, he', -⟩
      · obtain ⟨call, before, first, more, hsame, hstays, op, hop, hpub⟩ := hhistory.queued _ hm
        rw [roused_index] at hnone
        exact ⟨call, ticket.timeout, before, first, _, hsame,
          ⟨patience, hsame.goal ▸ hgoal⟩, hstays.snoc last,
          Or.inl ⟨⟨op, List.mem_append_left _ hop, hpub⟩, hsame.uri ▸ hnone⟩⟩
      · cases he'
    | expired ticket =>
      obtain ⟨-, patience, hgoal⟩ :=
        notIndexed_of_ending (show ending task ticket.timeout none = _ from he.symm)
      rcases mem_roused_queue hm with hm | ⟨b, hb, he', hle⟩
      · exact (hhistory.queued _ hm).elim
      · cases he'
        obtain ⟨call, before, first, more, hsame, hstays, hdeadline, hmore⟩ :=
          (hhistory.asleep b hb).snoc (publishes_of_settles hlast _)
        refine ⟨call, b.ticket.timeout, before, first, more, hsame,
          ⟨patience, hsame.goal ▸ hgoal⟩, hstays, Or.inr ⟨hmore, Or.inr ?_⟩⟩
        rw [← hdeadline, hnow, liesAhead, hle]
        simp
  | @served call n doc request hm hdoc => exact absurd he.symm (fulfilled_ne_notIndexed _ doc p)
  | refused hm hdoc htimeout => cases he
  | @hurried call task timeout hc hover =>
    obtain ⟨-, patience, hgoal⟩ := notIndexed_of_ending he.symm
    obtain ⟨n, hm⟩ := hc.due
    have hdue := begin_of_roused hm
    refine ⟨call, timeout, ops, last, [], hc.same, ⟨patience, hc.same.goal ▸ hgoal⟩,
      ⟨rfl, hhistory.queued _ hdue, ⟨n, hdue⟩, hlast, hc.window⟩, Or.inr ⟨by simp, ?_⟩⟩
    rw [hnow]
    exact hover

/-! ## A document that comes and goes -/

/-- A publication stays with the task it woke until the tasks have their turns. -/
theorem published_stays {task : Task τ} {ticket : Ticket τ} {quiet : List (Op τ)}
    (hquiet : ∀ op ∈ quiet, op.settles = false) {room : Room τ}
    (h : ∃ n, ⟨task, .published ticket, n⟩ ∈ room.queue) :
    ∃ n, ⟨task, .published ticket, n⟩ ∈ (room.carryOut quiet).queue := by
  induction quiet generalizing room with
  | nil => exact h
  | cons op quiet ih =>
    refine ih (fun op' hop' => hquiet op' (List.mem_cons_of_mem _ hop')) ?_
    obtain ⟨n, hm⟩ := h
    have hop := hquiet op List.mem_cons_self
    cases op with
    | publish request doc => exact publish_stays hm request doc
    | discard request uri =>
      rw [apply, discard_queue]
      exact ⟨n, hm⟩
    | start task => exact ⟨n, List.mem_append_left _ hm⟩
    | cancel id => exact cancel_stays hm rfl id
    | settle | moveOn instant => cases hop

/-- A call sleeps, its document is published, and it is gone when the call has its turn. -/
theorem gaveUp_of_gone {docs : List Document} {ops quiet : List (Op τ)} {b : Blocked τ}
    (hb : b ∈ (after docs ops).blocked) {patience : Patience τ}
    (hgoal : b.task.goal = .need patience) (request : Option String) {doc : Document}
    (hdoc : b.task.uri = doc.uri) (hquiet : ∀ op ∈ quiet, op.settles = false) {last : Op τ}
    (hlast : last.settles = true)
    (hgone : (after docs (ops ++ .publish request doc :: quiet)).index.get? b.task.uri = none) :
    (b.task.id, .failed (exhausted b.task.uri patience b.ticket.timeout)) ∈
        endedIn docs (ops ++ .publish request doc :: quiet) last ∧
      Leaves docs (ops ++ .publish request doc :: quiet) last b.task
        (.failed (exhausted b.task.uri patience b.ticket.timeout)) := by
  have hrun : after docs (ops ++ .publish request doc :: quiet) =
      ((after docs ops).publish request doc).carryOut quiet := by
    rw [after, carryOut, List.foldl_append]
    rfl
  obtain ⟨n, hm⟩ : ∃ n, ⟨b.task, .published b.ticket, n⟩ ∈
      (after docs (ops ++ .publish request doc :: quiet)).queue := by
    rw [hrun]
    exact published_stays hquiet
      ⟨_, (reachable_after docs ops).kept.publish_wakes request doc hb hdoc⟩
  have hended := ended_of_woken (mem_roused_queue_of_mem last hm) (by simp)
  simp only [parting, roused_index, hgone, ending, disappointed, hgoal] at hended
  rw [endedIn_of_settles docs _ hlast]
  exact ⟨hended.1, hlast, hended.2⟩

/-! ## The condition -/

/-- What may be expected of a call that was given up: its window has passed since it began, and no
document came in between. -/
def Timely (docs : List Document) (call : Task τ) (window : τ) (before : List (Op τ)) (first : Op τ)
    (more : List (Op τ)) : Prop :=
  liesAhead (after docs (before ++ first :: more)).now
    (Clock.add (after docs (before ++ [first])).now window) = false ∧
  ∀ op ∈ more, op.publishes call.uri = false

/-- **When a call is given up in time.** The task that ends so, in a turn of its own, is a call that
was made. If its window is positive, it is given up in time exactly if no document came while it
waited; if one came, it was gone at the call's turn. And whenever a document comes for a call that
sleeps, and is gone at its turn, the call is given up then. -/
theorem gives_up_timely_iff (docs : List Document) (ops : List (Op τ)) (last : Op τ) :
    (∀ id p, (id, .failed (.notIndexed p)) ∈ endedIn docs ops last →
      ∃ task call window before first more, task.id = id ∧
        Leaves docs ops last task (.failed (.notIndexed p)) ∧ task.Is call ∧
        (∃ patience, call.goal = .need patience) ∧
        Stays docs (ops ++ [last]) call window before first more ∧
        (liesAhead Clock.nothing window = true →
          (Timely docs call window before first more ↔
            ∀ op ∈ more, op.publishes call.uri = false) ∧
          (¬ Timely docs call window before first more →
            (after docs ops).index.get? call.uri = none))) ∧
    (last.settles = true → ∀ before quiet request doc,
      ops = before ++ .publish request doc :: quiet → (∀ op ∈ quiet, op.settles = false) →
      ∀ b ∈ (after docs before).blocked, b.task.uri = doc.uri →
        (after docs ops).index.get? doc.uri = none →
        ∀ patience, b.task.goal = .need patience →
          (b.task.id, .failed (exhausted b.task.uri patience b.ticket.timeout)) ∈
              endedIn docs ops last ∧
            Leaves docs ops last b.task
              (.failed (exhausted b.task.uri patience b.ticket.timeout))) := by
  constructor
  · intro id p h
    obtain ⟨task, hid, hleaves, hends⟩ := ends_of_endedIn h
    obtain ⟨call, window, before, first, more, hsame, hneed, hstays, hcases⟩ :=
      gaveUp_cases hleaves.1 hends
    refine ⟨task, call, window, before, first, more, hid, hleaves, hsame, hneed, hstays,
      fun hpositive => ?_⟩
    rcases hcases with ⟨⟨op, hop, hpublishes⟩, hgone⟩ | ⟨hnone, hover⟩
    · refine ⟨⟨fun h => h.2, fun hnone => ?_⟩, fun _ => hgone⟩
      rw [hnone op hop] at hpublishes
      cases hpublishes
    · have htimely : Timely docs call window before first more := by
        refine ⟨?_, hnone⟩
        rw [← hstays.split]
        rcases hover with hover | hover
        · simp [liesAhead, hover] at hpositive
        · exact hover
      exact ⟨⟨fun h => h.2, fun _ => htimely⟩, fun h => absurd htimely h⟩
  · rintro hlast before quiet request doc rfl hquiet b hb hdoc hgone patience hgoal
    exact gaveUp_of_gone hb hgoal request hdoc hquiet hlast (hdoc ▸ hgone)

/-- A call sleeps for up to three seconds. Its document is published and discarded at once, and the
call is given up although no time has passed. -/
theorem gives_up_untimely :
    let patience : Patience Seconds := ⟨.whole 1, 3⟩
    let call : Task Seconds := ⟨"a", "file:///A.pm", .need patience, none⟩
    let more : List (Op Seconds) :=
      [.publish none { uri := "file:///A.pm" }, .discard none "file:///A.pm"]
    (∃ p, ("a", .failed (.notIndexed p)) ∈ endedIn [] ([.start call, .settle] ++ more) .settle) ∧
    Stays [] ([.start call, .settle] ++ more ++ [.settle]) call (.whole 3) [.start call] .settle
      (more ++ [.settle]) ∧
    liesAhead Clock.nothing (Seconds.whole 3) = true ∧
    ¬ Timely [] call (.whole 3) [.start call] .settle (more ++ [.settle]) := by
  intro patience call more
  have hended : endedIn [] ([.start call, .settle] ++ more) .settle =
      [("a", .failed (exhausted "file:///A.pm" patience (.whole 3)))] := by
    subst more call patience
    rfl
  obtain ⟨p, hp⟩ : ∃ p, exhausted "file:///A.pm" patience (.whole 3) = .notIndexed p := ⟨_, rfl⟩
  rw [hp] at hended
  have hearly : liesAhead (after [] ([.start call] ++ .settle :: (more ++ [.settle]))).now
      (Clock.add (after [] ([.start call] ++ [.settle])).now (.whole 3)) = true := by
    subst more call patience
    decide +kernel
  have hwindow : timeout? call.goal = some (.whole 3) := by
    subst call patience
    rfl
  refine ⟨⟨p, ?_⟩, ⟨rfl, by simp, ⟨0, List.mem_singleton_self _⟩, rfl, hwindow⟩, by decide, ?_⟩
  · rw [hended]
    exact List.mem_singleton_self _
  · rintro ⟨hlate, -⟩
    rw [hearly] at hlate
    cases hlate

/-- A call whose window passes is given up in time, and one whose document comes and goes is given
up as well. -/
theorem gives_up_timely_iff_both :
    let patience : Patience Seconds := ⟨.whole 1, 3⟩
    let call : Task Seconds := ⟨"a", "file:///A.pm", .need patience, none⟩
    let doc : Document := { uri := "file:///A.pm" }
    let gone : List (Op Seconds) := [.publish none doc, .discard none doc.uri]
    (∃ before first more,
      Stays [] [.start call, .settle, .moveOn (.whole 3)] call (.whole 3) before first more ∧
      (Timely [] call (.whole 3) before first more ↔
        ∀ op ∈ more, op.publishes call.uri = false)) ∧
    ("a", .failed (exhausted "file:///A.pm" patience (.whole 3))) ∈
      endedIn [] ([.start call, .settle] ++ gone) .settle := by
  intro patience call doc gone
  have hended : endedIn [] [.start call, .settle] (.moveOn (.whole 3)) =
      [("a", .failed (exhausted "file:///A.pm" patience (.whole 3)))] := by
    subst call patience
    rfl
  obtain ⟨p, hp⟩ : ∃ p, exhausted "file:///A.pm" patience (.whole 3) = .notIndexed p := ⟨_, rfl⟩
  rw [hp] at hended
  constructor
  · obtain ⟨task, call', window, before, first, more, -, hleaves, -, -, hstays, hcases⟩ :=
      (gives_up_timely_iff [] [.start call, .settle] (.moveOn (.whole 3))).1 "a" p
        (hended ▸ List.mem_singleton_self _)
    have hcall : call' = call := by
      have hmade : .start call' ∈ [Op.start call, .settle] ++ [.moveOn (.whole 3)] := by
        rw [hstays.split]
        exact List.mem_append_left _ hstays.made
      simpa using hmade
    subst hcall
    have hwindow : timeout? call.goal = some (.whole 3) := by
      subst call patience
      rfl
    obtain rfl : Seconds.whole 3 = window := Option.some.inj (hwindow.symm.trans hstays.window)
    exact ⟨before, first, more, hstays, (hcases (by decide)).1⟩
  · have hblocked : (after [] [.start call, .settle]).blocked =
        [⟨call, ⟨0, .whole 3⟩, Clock.add Clock.start (.whole 3)⟩] := by
      subst call patience
      rfl
    have hgone : (after [] ([.start call, .settle] ++ gone)).index.get? doc.uri = none := by
      subst gone doc call patience
      rfl
    have hquiet : ∀ op ∈ [Op.discard none doc.uri], (op : Op Seconds).settles = false := by
      simp [Op.settles]
    let b : Blocked Seconds := ⟨call, ⟨0, .whole 3⟩, Clock.add Clock.start (.whole 3)⟩
    have hb : b ∈ (after [] [.start call, .settle]).blocked := by
      rw [hblocked]
      exact List.mem_singleton_self _
    have hended := (gives_up_timely_iff [] ([.start call, .settle] ++ gone) .settle).2 rfl
      [.start call, .settle] [.discard none doc.uri] none doc rfl hquiet b hb rfl
    exact (hended hgone patience rfl).1

end PerlSymbols.Room
