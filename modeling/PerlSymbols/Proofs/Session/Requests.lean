import PerlSymbols.Session.Running
import PerlSymbols.Proofs.Session.Hovering
import PerlSymbols.Proofs.Waiting.Foreground
import PerlSymbols.Proofs.Waiting.Overtaking
import PerlSymbols.Proofs.Waiting.Runs
import PerlSymbols.Proofs.Waiting.Settling

/-!
# When a request fails

Requests are meant never to fail. They do, and exactly on malformed data of the index or of the map
of modules, or when the time to wait is out of range. Here a session goes through any run, with
requests in the background, before and while a request is served.
-/

namespace PerlSymbols.Session

open Room (HasTask Settling Ends Comes ended ending parting foreseen timeout?)

theorem after_snoc (settings : Settings) (acts : List Act) (a : Act) :
    after settings (acts ++ [a]) = (after settings acts).act a := by
  simp [after]

theorem settings_after (settings : Settings) (acts : List Act) :
    (after settings acts).settings = settings := by
  induction acts using List.reverseRecOn with
  | nil => rfl
  | append_singleton acts a ih =>
    rw [after_snoc]
    have hsame : ((after settings acts).act a).settings = (after settings acts).settings := by
      cases a <;> rfl
    rw [hsame, ih]

theorem patience_after (settings : Settings) (acts : List Act) :
    (after settings acts).patience = ({ settings } : Session).patience := by
  rw [patience, settings_after]
  rfl

/-! ## What is known of the tasks of a session -/

/-- A task is a request of the run. -/
structure Asked (settings : Settings) (acts : List Act) (task : Task Seconds) : Prop where
  made : ∃ named, .request task.id task.uri named ∈ acts
  goal : task.goal = .outline ({ settings } : Session).patience

/-- What the wake-up of a task tells about a run between two acts. -/
def Due (acts : List Act) (task : Task Seconds) : Wake Seconds → Prop
  | .begin => True
  | .published ticket => timeout? task.goal = some ticket.timeout
  | .expired _ => False
  | .abandoned | .cancelled _ => .cancel task.id ∈ acts

structure Serves (settings : Settings) (acts : List Act) (room : Room Seconds) : Prop where
  kept : room.Kept
  queued : ∀ r ∈ room.queue, Asked settings acts r.task ∧ Due acts r.task r.wake
  asleep : ∀ b ∈ room.blocked, Asked settings acts b.task ∧
    timeout? b.task.goal = some b.ticket.timeout ∧ Clock.le b.deadline b.deadline = true
  named : ∀ entry ∈ room.finished, entry.1 ≠ ""
  found : ∀ id uri named, .request id uri named ∈ acts → HasTask id room

theorem Asked.id_ne {settings : Settings} {acts : List Act} {task : Task Seconds}
    (h : Asked settings acts task) : task.id ≠ "" :=
  h.made.choose

theorem Asked.snoc {settings : Settings} {acts : List Act} {task : Task Seconds}
    (h : Asked settings acts task) (a : Act) : Asked settings (acts ++ [a]) task := by
  obtain ⟨⟨named, hm⟩, hgoal⟩ := h
  exact ⟨⟨named, List.mem_append_left _ hm⟩, hgoal⟩

theorem Due.snoc {acts : List Act} {task : Task Seconds} {wake : Wake Seconds}
    (h : Due acts task wake) (a : Act) : Due (acts ++ [a]) task wake := by
  cases wake with
  | begin => trivial
  | published ticket => exact h
  | expired ticket => exact h
  | abandoned | cancelled ticket => exact List.mem_append_left _ h

theorem due_of_isCancelled {acts : List Act} {task : Task Seconds} {wake : Wake Seconds}
    (h : .cancel task.id ∈ acts) (hw : wake.isCancelled = true) : Due acts task wake := by
  cases wake with
  | abandoned | cancelled ticket => exact h
  | begin | published ticket | expired ticket => cases hw

/-! ## One act -/

section Acts

variable {settings : Settings} {acts : List Act} {room : Room Seconds}

/-- A request that was made before is still there. -/
theorem Serves.found_snoc {room' : Room Seconds} (h : Serves settings acts room) {a : Act}
    (ha : ∀ id uri named, a ≠ .request id uri named)
    (hkeep : ∀ id, HasTask id room → HasTask id room') (id uri : String) (named : id ≠ "")
    (hm : .request id uri named ∈ acts ++ [a]) : HasTask id room' := by
  rcases List.mem_append.mp hm with hm | hm
  · exact hkeep id (h.found id uri named hm)
  · exact absurd (List.mem_singleton.mp hm).symm (ha id uri named)

theorem Serves.congr {room' : Room Seconds} (h : Serves settings acts room)
    (hi : room'.index = room.index) (hq : room'.queue = room.queue)
    (hb : room'.blocked = room.blocked) (hf : room'.finished = room.finished) {a : Act}
    (ha : ∀ id uri named, a ≠ .request id uri named) : Serves settings (acts ++ [a]) room' where
  kept := by
    obtain ⟨hbooks, hawaited⟩ := h.kept
    refine ⟨?_, ?_⟩
    · rw [hi, Room.seats, hq, hb]
      exact hbooks
    · rw [hi, hb]
      exact hawaited
  queued r hr := by
    rw [hq] at hr
    exact ⟨(h.queued r hr).1.snoc a, (h.queued r hr).2.snoc a⟩
  asleep b hm := by
    rw [hb] at hm
    exact ⟨(h.asleep b hm).1.snoc a, (h.asleep b hm).2⟩
  named := by
    rw [hf]
    exact h.named
  found := by
    refine h.found_snoc ha ?_
    intro id htask
    rw [HasTask, hf, hq, hb]
    exact htask

theorem Serves.publish (h : Serves settings acts room) (request : Option String) (doc : Document) :
    Serves settings (acts ++ [.publish doc]) (room.publish request doc) where
  kept := h.kept.publish request doc
  queued r hr := by
    rcases List.mem_append.mp hr with hr | hr
    · obtain ⟨r', hr', rfl⟩ := List.mem_map.mp hr
      obtain ⟨n, -, he⟩ := Room.shorten_eq (room.index.ready.get? doc.uri) r'
      have hold := h.queued r' hr'
      refine (congrArg (fun r : Runnable Seconds => Asked settings _ r.task ∧ Due _ r.task r.wake)
        he).mpr ⟨hold.1.snoc _, hold.2.snoc _⟩
    · obtain ⟨b, hb, rfl⟩ := List.mem_map.mp hr
      have hold := h.asleep b (List.mem_filter.mp hb).1
      exact ⟨hold.1.snoc _, hold.2.1⟩
  asleep b hb := by
    have hold := h.asleep b (List.mem_filter.mp hb).1
    exact ⟨hold.1.snoc _, hold.2⟩
  named := h.named
  found := by
    refine h.found_snoc (by simp) ?_
    rintro id (hf | ⟨r, hr, hid⟩ | hb)
    · exact Or.inl hf
    · obtain ⟨n, hm⟩ := Room.publish_stays hr request doc
      exact Or.inr (Or.inl ⟨_, hm, hid⟩)
    · have htask : HasTask id ({ room with
          index := (room.index.publish doc).1
          queue := room.queue.map (Room.shorten (room.index.ready.get? doc.uri)) } :
          Room Seconds) := Or.inr (Or.inr hb)
      exact htask.wakeWhere (fun b => some b.ticket.signal == room.index.ready.get? doc.uri)
        .published handoffs.published

theorem Serves.discard (h : Serves settings acts room) (request : Option String) (uri : String) :
    Serves settings (acts ++ [.close uri]) (room.discard request uri) := by
  have hkept := h.kept.discard request uri
  have hsame : Serves settings (acts ++ [.close uri]) room := h.congr rfl rfl rfl rfl (by simp)
  unfold Room.discard at hkept ⊢
  split
  · next hc =>
    rw [if_pos hc] at hkept
    exact ⟨hkept, hsame.queued, hsame.asleep, hsame.named, hsame.found⟩
  · exact hsame

theorem Serves.start (h : Serves settings acts room) {task : Task Seconds} (named : task.id ≠ "")
    (hgoal : task.goal = .outline ({ settings } : Session).patience) :
    Serves settings (acts ++ [.request task.id task.uri named]) (room.start task) where
  kept := h.kept.start task
  queued r hr := by
    rcases List.mem_append.mp hr with hr | hr
    · exact ⟨(h.queued r hr).1.snoc _, (h.queued r hr).2.snoc _⟩
    · rw [List.mem_singleton.mp hr]
      exact ⟨⟨⟨named, by simp⟩, hgoal⟩, trivial⟩
  asleep b hb := ⟨(h.asleep b hb).1.snoc _, (h.asleep b hb).2⟩
  named := h.named
  found id uri named' hm := by
    rcases List.mem_append.mp hm with hm | hm
    · rcases h.found id uri named' hm with hf | ⟨r, hr, hid⟩ | hb
      · exact Or.inl hf
      · exact Or.inr (Or.inl ⟨r, List.mem_append_left _ hr, hid⟩)
      · exact Or.inr (Or.inr hb)
    · obtain ⟨rfl, -⟩ : id = task.id ∧ uri = task.uri := by simpa using hm
      exact Or.inr (Or.inl ⟨_, List.mem_append_right _ (List.mem_singleton_self _), rfl⟩)

theorem Serves.cancel (h : Serves settings acts room) (id : String) :
    Serves settings (acts ++ [.cancel id]) (room.cancel id) where
  kept := h.kept.cancel id
  queued r hr := by
    rcases List.mem_append.mp hr with hr | hr
    · obtain ⟨r', hr', ht, -, -, hw⟩ := Room.mem_cancelQueue hr
      rw [ht]
      refine ⟨(h.queued r' hr').1.snoc _, ?_⟩
      rcases hw with hw | ⟨hid, hw⟩
      · rw [hw]
        exact (h.queued r' hr').2.snoc _
      · exact due_of_isCancelled (hid ▸ List.mem_append_right _ (List.mem_singleton_self _)) hw
    · obtain ⟨b, hb, rfl⟩ := List.mem_map.mp hr
      obtain ⟨hb, hid⟩ := List.mem_filter.mp hb
      refine ⟨(h.asleep b hb).1.snoc _, ?_⟩
      have he : b.task.id = id := by simpa using hid
      exact he ▸ List.mem_append_right _ (List.mem_singleton_self _)
  asleep b hb := by
    have hold := h.asleep b (List.mem_filter.mp hb).1
    exact ⟨hold.1.snoc _, hold.2⟩
  named := h.named
  found := by
    refine h.found_snoc (by simp) ?_
    rintro id' (hf | ⟨r, hr, hid⟩ | hb)
    · exact Or.inl hf
    · rcases Room.mem_cancel_queue hr id with hm | hm
      · exact Or.inr (Or.inl ⟨r, hm, hid⟩)
      · exact Or.inr (Or.inl ⟨_, hm, (Room.cancelRunnable_task r).symm ▸ hid⟩)
    · have htask : HasTask id' ({ room with queue := Room.cancelQueue id room.queue } :
          Room Seconds) := Or.inr (Or.inr hb)
      exact htask.wakeWhere (fun b => b.task.id == id) .cancelled handoffs.cancelled

theorem Asked.of_is {task call : Task Seconds} (h : Asked settings acts call)
    (hsame : task.Is call) : Asked settings acts task := by
  obtain ⟨⟨named, hm⟩, hgoal⟩ := h
  obtain ⟨hid, huri, hgoal'⟩ := hsame
  constructor
  · rw [hid, huri]
    exact ⟨named, hm⟩
  · rw [hgoal', hgoal]

/-- Everyone who can run when the turns of an act begin was asked for. -/
theorem Serves.asked_roused (h : Serves settings acts room) {op : Room.Op Seconds}
    {r : Runnable Seconds} (hr : r ∈ (room.roused op).queue) : Asked settings acts r.task := by
  rcases Room.mem_roused_queue hr with hr | ⟨b, hb, rfl, -⟩
  · exact (h.queued r hr).1
  · exact (h.asleep b hb).1

theorem Serves.settles (h : Serves settings acts room) {op : Room.Op Seconds}
    (hop : op.settles = true) {a : Act} (ha : ∀ id uri named, a ≠ .request id uri named) :
    Serves settings (acts ++ [a]) (room.apply op) := by
  have hsettling := Room.settling_settle (room.roused op)
  have hkept : (room.apply op).Kept := by
    cases op with
    | settle => exact h.kept.settle
    | moveOn instant => exact (h.kept.moveTo instant).settle
    | publish | discard | start | cancel => cases hop
  have htask : ∀ id, HasTask id room → HasTask id (room.roused op).settle := by
    intro id htask
    refine Room.turns_keep (P := HasTask id) (fun _ => HasTask.turn) _ _ ?_
    cases op with
    | moveOn instant =>
      have hmoved : HasTask id ({ room with now := instant } : Room Seconds) := htask
      exact hmoved.wakeWhere _ _ _
    | publish | discard | start | cancel | settle => exact htask
  rw [Room.apply_of_settles room hop] at hkept ⊢
  refine ⟨hkept, ?_, ?_, ?_, h.found_snoc ha htask⟩
  · intro r hr
    rw [Room.settle_queue] at hr
    cases hr
  · intro b hb
    rcases hsettling.blocked b hb with hold | ⟨call, hc, -, hahead⟩
    · have hold := h.asleep b (Room.mem_of_mem_roused_blocked hold)
      exact ⟨hold.1.snoc a, hold.2⟩
    · obtain ⟨n, hm⟩ := hc.due
      refine ⟨((h.asked_roused hm).snoc a).of_is hc.same, hc.same.goal ▸ hc.window, ?_⟩
      exact Seconds.orders _ _ (Room.le_of_liesAhead hahead)
  · intro entry hm
    rcases Room.mem_ended_or_finished hsettling.grows hm with hm | hm
    · rw [Room.roused_finished] at hm
      exact h.named entry hm
    · obtain ⟨task, hid, hends, -⟩ := (Room.course_settle _).accounted entry hm
      obtain ⟨r, hr, hsame⟩ := hends.exists_queue
      exact hid ▸ hsame ▸ (h.asked_roused hr).id_ne

end Acts

theorem serves_after (settings : Settings) (acts : List Act) :
    Serves settings acts (after settings acts).room := by
  induction acts using List.reverseRecOn with
  | nil =>
    refine ⟨(Room.Reachable.opened []).kept, ?_, ?_, ?_, ?_⟩
    all_goals simp [after, Room.ofIndex]
  | append_singleton acts a ih =>
    rw [after_snoc]
    cases a with
    | publish doc => exact ih.publish _ doc
    | openText uri text => refine ih.congr ?_ ?_ ?_ ?_ (by simp) <;> rfl
    | close uri => exact ih.discard _ uri
    | setModules modules => refine ih.congr ?_ ?_ ?_ ?_ (by simp) <;> rfl
    | hover uri position => refine ih.congr ?_ ?_ ?_ ?_ (by simp) <;> rfl
    | request id uri named =>
      have hgoal : ((after settings acts).outlineTask id uri).goal =
          .outline ({ settings } : Session).patience := by
        rw [outlineTask, patience_after]
      exact ih.start named hgoal
    | cancel id => exact ih.cancel id
    | settle => exact ih.settles (show Room.Op.settles .settle = true from rfl) (by simp)
    | moveOn instant =>
      exact ih.settles (show (Room.Op.moveOn instant).settles = true from rfl) (by simp)

/-! ## Answers -/

/-- What makes a hover fail. -/
def HoverFails (s : Session) (uri : String) (position : Position) : Prop :=
  ∃ doc text, s.room.index.get? uri = some doc ∧ s.texts.get? uri = some text ∧
    (Unresolvable doc s.modules (Cursor.symbolAt position text) position.line ∨
      ∃ e, (resolve doc s.modules (Cursor.symbolAt position text) position.line).outcome =
          .ok (some e) ∧
        Unshowable (Cursor.symbolAt position text) e doc uri (some s.room.index.get?))

/-- What makes an outline fail: an element of the document, or, where there is no document, a time
to wait that is out of range. -/
def OutlineFails (s : Session) (uri : String) : Prop :=
  (∃ doc, s.room.index.get? uri = some doc ∧
    ∃ name e rest, (name, e :: rest) ∈ doc.buckets ∧ e.Unlistable) ∨
  s.room.index.get? uri = none ∧ Decimal.ofInt? s.settings.index.retries = none

/-- A request for an outline ends with a list, or with an error where something makes it fail. -/
def Answers (s : Session) (uri : String) (outcome : Outcome) : Prop :=
  (∃ found, outcome = .symbols found) ∧ ¬ s.OutlineFails uri ∨
  (∃ e, outcome = .failed e) ∧ s.OutlineFails uri

theorem hover_fails_iff (s : Session) (uri : String) (position : Position) :
    Fails (s.hover uri position).2 ↔ s.HoverFails uri position := by
  show Fails ((s.bindRequest none).traceHover uri position).outcome ↔ _
  rw [traceHover]
  split
  · next doc text hdoc htext =>
    rw [PerlSymbols.hover_fails_iff]
    constructor
    · intro h
      exact ⟨doc, text, hdoc, htext, h⟩
    · rintro ⟨doc', text', hdoc', htext', h⟩
      obtain rfl : doc = doc' := Option.some.inj (hdoc.symm.trans hdoc')
      obtain rfl : text = text' := Option.some.inj (htext.symm.trans htext')
      exact h
  · next hnot =>
    rw [Traced.outcome_bind, fails_bind]
    simp only [Traced.outcome_log, fails_ok, Traced.outcome_pure, and_false, exists_false, or_false,
      false_iff]
    rintro ⟨doc, text, hdoc, htext, -⟩
    exact hnot doc text hdoc htext

theorem timeout_patience (s : Session) : timeout? (.outline s.patience) =
    (Decimal.ofInt? s.settings.index.retries).map fun y => .real (s.settings.index.interval * y) := by
  show Option.filter Clock.canPass ((Decimal.ofInt? s.settings.index.retries).map fun y =>
    Seconds.real (s.settings.index.interval * y)) = _
  cases Decimal.ofInt? s.settings.index.retries with
  | none => rfl
  | some y => exact if_pos (Bool.or_true _)

theorem answers_outlined {s : Session} {uri : String} {doc : Document}
    (hdoc : s.room.index.get? uri = some doc) : s.Answers uri (Room.outlined uri doc) := by
  have hiff : s.OutlineFails uri ↔ Fails (Outline.ofDocument uri doc) := by
    rw [Outline.ofDocument_fails_iff]
    simp [OutlineFails, hdoc]
  rw [Answers, hiff, Room.outlined]
  cases Outline.ofDocument uri doc with
  | ok found => simp
  | error e => simp

theorem answers_disappointed {s : Session} {task : Task Seconds} {timeout : Seconds}
    (hgoal : task.goal = .outline s.patience) (htimeout : timeout? task.goal = some timeout)
    (hnone : s.room.index.get? task.uri = none) :
    s.Answers task.uri (ending task timeout none) := by
  rw [hgoal, timeout_patience] at htimeout
  obtain ⟨y, hy, rfl⟩ := Option.map_eq_some_iff.mp htimeout
  refine Or.inl ⟨⟨[], ?_⟩, ?_⟩
  · rw [ending, Room.disappointed, hgoal]
    rfl
  · simp [OutlineFails, hnone, hy]

theorem answers_refused {s : Session} {task : Task Seconds}
    (hgoal : task.goal = .outline s.patience) (htimeout : timeout? task.goal = none)
    (hnone : s.room.index.get? task.uri = none) :
    s.Answers task.uri (.failed (.number .tooLarge)) := by
  rw [hgoal, timeout_patience] at htimeout
  exact Or.inr ⟨⟨_, rfl⟩, Or.inr ⟨hnone, by simpa using htimeout⟩⟩

/-- A request in the foreground. -/
theorem documentSymbols_answers (settings : Settings) (acts : List Act) (uri : String) :
    (after settings acts).Answers uri ((after settings acts).documentSymbols uri).2 := by
  have hserves := serves_after settings acts
  generalize after settings acts = s at hserves ⊢
  have hknows : Room.Knows (s.outlineTask "" uri).id s.room :=
    ⟨hserves.named, fun r hr => (hserves.queued r hr).1.id_ne,
      fun b hb => (hserves.asleep b hb).1.id_ne, fun b hb => (hserves.asleep b hb).2.2⟩
  show s.Answers uri (s.room.perform (s.outlineTask "" uri)).2
  rw [Room.perform_outcome Seconds.orders hknows, foreseen]
  split
  · next doc _ hdoc => exact answers_outlined hdoc
  · next timeout hdoc htimeout => exact answers_disappointed rfl htimeout hdoc
  · next hdoc htimeout =>
    have hgoal : (s.outlineTask "" uri).goal = .outline s.patience := rfl
    exact answers_refused hgoal htimeout hdoc

theorem fulfilled_of_goal {task : Task Seconds} {patience : Patience Seconds}
    (hgoal : task.goal = .outline patience) (doc : Document) :
    Room.fulfilled task doc = Room.outlined task.uri doc := by
  rw [Room.fulfilled, hgoal]

/-- A request that was woken has an answer, unless it was cancelled. -/
theorem parting_answers {settings : Settings} {acts : List Act} {s : Session}
    (hserves : Serves settings acts s.room) {op : Room.Op Seconds} {task : Task Seconds}
    {wake : Wake Seconds} {n : Nat} (hm : ⟨task, wake, n⟩ ∈ (s.room.roused op).queue)
    (hw : wake ≠ .begin) (hgoal : task.goal = .outline s.patience) :
    parting s.room.index task wake = .failed .cancelled ∧ .cancel task.id ∈ acts ∨
    s.Answers task.uri (parting s.room.index task wake) := by
  rcases Room.mem_roused_queue hm with hm | ⟨b, hb, he, -⟩
  · have hdue := (hserves.queued _ hm).2
    cases wake with
    | begin => exact absurd rfl hw
    | abandoned | cancelled ticket => exact Or.inl ⟨rfl, hdue⟩
    | expired ticket => exact hdue.elim
    | published ticket =>
      right
      rw [parting]
      cases hdoc : s.room.index.get? task.uri with
      | some doc =>
        rw [ending, fulfilled_of_goal hgoal]
        exact answers_outlined hdoc
      | none => exact answers_disappointed hgoal hdue hdoc
  · -- Its deadline is reached only now. As long as it slept, there was no document.
    cases he
    have hnone : s.room.index.get? b.task.uri = none := by
      rw [← Option.not_isSome_iff_eq_none]
      exact fun hsome => hserves.kept.ne_of_indexed hsome hb rfl
    exact Or.inr (answers_disappointed hgoal (hserves.asleep b hb).2.1 hnone)

/-- A request in the background ends with an answer, unless it was cancelled. -/
theorem ends_answers {settings : Settings} {acts : List Act} {op : Room.Op Seconds}
    {task : Task Seconds} {outcome : Outcome}
    (h : Ends ((after settings acts).room.roused op) task outcome) :
    outcome = .failed .cancelled ∧ .cancel task.id ∈ acts ∨
    ∃ uri named, .request task.id uri named ∈ acts ∧
      (after settings acts).Answers uri outcome := by
  have hserves := serves_after settings acts
  have hgoal : ∀ {task}, Asked settings acts task →
      task.goal = .outline (after settings acts).patience := by
    intro task hasked
    rw [hasked.goal, patience_after]
  generalize after settings acts = s at h hserves hgoal ⊢
  have hanswer : ∀ {task outcome}, Asked settings acts task → s.Answers task.uri outcome →
      ∃ uri named, .request task.id uri named ∈ acts ∧ s.Answers uri outcome := by
    rintro task outcome ⟨⟨named, hm⟩, -⟩ hanswers
    exact ⟨task.uri, named, hm, hanswers⟩
  cases h with
  | @parted task wake n hm hw =>
    have hasked := hserves.asked_roused hm
    rw [Room.roused_index]
    exact (parting_answers hserves hm hw (hgoal hasked)).imp_right (hanswer hasked)
  | served request hm hdoc =>
    have hasked := hserves.asked_roused hm
    rw [Room.roused_index] at hdoc
    refine Or.inr (hanswer hasked ?_)
    have htask : task.goal = .outline s.patience := hgoal hasked
    rw [fulfilled_of_goal (show ({ task with request } : Task Seconds).goal = _ from htask)]
    exact answers_outlined hdoc
  | refused hm hdoc htimeout =>
    have hasked := hserves.asked_roused hm
    rw [Room.roused_index] at hdoc
    exact Or.inr (hanswer hasked (answers_refused (hgoal hasked) htimeout hdoc))
  | @hurried call task timeout hc hover =>
    obtain ⟨n, hm⟩ := hc.due
    have hasked := (hserves.asked_roused hm).of_is hc.same
    have habsent := hc.absent
    rw [Room.roused_index, ← hc.same.uri] at habsent
    refine Or.inr (hanswer hasked ?_)
    exact answers_disappointed (hgoal hasked) (hc.same.goal ▸ hc.window) habsent

/-- Tasks end only in acts that let them have their turns. -/
theorem finished_act (s : Session) {a : Act} (hsettle : a ≠ .settle)
    (hmove : ∀ instant, a ≠ .moveOn instant) : (s.act a).room.finished = s.room.finished := by
  cases a with
  | close uri =>
    show (s.room.discard s.request uri).finished = _
    unfold Room.discard
    split <;> rfl
  | settle => exact absurd rfl hsettle
  | moveOn instant => exact absurd rfl (hmove instant)
  | _ => rfl

theorem ended_answers {settings : Settings} {acts : List Act} {a : Act} {id : String}
    {outcome : Outcome}
    (h : (id, outcome) ∈ ended (after settings acts).room ((after settings acts).act a).room) :
    outcome = .failed .cancelled ∧ .cancel id ∈ acts ∨
    ∃ uri named, .request id uri named ∈ acts ∧ (after settings acts).Answers uri outcome := by
  have hsettled : ∀ op : Room.Op Seconds,
      (id, outcome) ∈ ended ((after settings acts).room.roused op)
        ((after settings acts).room.roused op).settle →
      outcome = .failed .cancelled ∧ .cancel id ∈ acts ∨
      ∃ uri named, .request id uri named ∈ acts ∧ (after settings acts).Answers uri outcome := by
    intro op hm
    obtain ⟨task, rfl, hends, -⟩ := (Room.course_settle _).accounted _ hm
    exact ends_answers hends
  by_cases hsettle : a = .settle
  · subst hsettle
    exact hsettled .settle h
  by_cases hmove : ∃ instant, a = .moveOn instant
  · obtain ⟨instant, rfl⟩ := hmove
    exact hsettled (.moveOn instant) h
  · rw [ended, finished_act _ hsettle fun instant he => hmove ⟨instant, he⟩, List.drop_length] at h
    cases h

/-- Whoever sleeps ends when the clock reaches its deadline, at the latest. -/
theorem asleep_ends {s : Session} {b : Blocked Seconds} (hb : b ∈ s.room.blocked)
    {instant : Seconds} (hle : Clock.le b.deadline instant = true) :
    ∃ outcome, (b.task.id, outcome) ∈ ended s.room (s.act (.moveOn instant)).room := by
  have hm : ⟨b.task, .expired b.ticket, handoffs.expired⟩ ∈ (s.room.moveTo instant).queue :=
    List.mem_append_right _ (List.mem_map.mpr ⟨b, List.mem_filter.mpr ⟨hb, hle⟩, rfl⟩)
  exact ⟨_, (Room.ended_of_woken hm nofun).1⟩

/-- A request has ended, or it ends once the clock has reached its deadline. -/
def EndsInTime (s : Session) (id : String) : Prop :=
  (∃ outcome, (id, outcome) ∈ s.room.finished) ∨
  ∃ deadline, Clock.le deadline deadline = true ∧
    ∀ instant, Clock.le deadline instant = true →
      ∃ outcome, (id, outcome) ∈ ended s.room (s.act (.moveOn instant)).room

/-- No request is lost. -/
theorem request_ends {settings : Settings} {acts : List Act} {id uri : String} {named : id ≠ ""}
    (h : .request id uri named ∈ acts) :
    (after settings (acts ++ [.settle])).EndsInTime id := by
  have hserves := serves_after settings (acts ++ [.settle])
  have hempty : (after settings (acts ++ [.settle])).room.queue = [] := by
    rw [after_snoc]
    exact Room.settle_queue _
  rcases hserves.found id uri named (List.mem_append_left _ h) with hf | ⟨r, hr, -⟩ | ⟨b, hb, rfl⟩
  · obtain ⟨entry, hm, rfl⟩ := hf
    exact Or.inl ⟨entry.2, hm⟩
  · rw [hempty] at hr
    cases hr
  · refine Or.inr ⟨b.deadline, (hserves.asleep b hb).2.2, ?_⟩
    intro instant hle
    exact asleep_ends hb hle

/-! ## The theorem -/

/-- After every run, the requests that fail are the ones with a reason to. -/
theorem requests_fail_iff (settings : Settings) (acts : List Act) :
    (∀ uri position, Fails ((after settings acts).hover uri position).2 ↔
      (after settings acts).HoverFails uri position) ∧
    (∀ query, ¬ Fails ((after settings acts).workspaceSymbols query)) ∧
    (∀ uri, (after settings acts).Answers uri ((after settings acts).documentSymbols uri).2) ∧
    (∀ a id outcome,
      (id, outcome) ∈ ended (after settings acts).room ((after settings acts).act a).room →
      outcome = .failed .cancelled ∧ .cancel id ∈ acts ∨
      ∃ uri named, .request id uri named ∈ acts ∧ (after settings acts).Answers uri outcome) ∧
    ∀ id uri named, .request id uri named ∈ acts →
      (after settings (acts ++ [.settle])).EndsInTime id := by
  refine ⟨?_, ?_, ?_, ?_, ?_⟩
  · intro uri position
    exact hover_fails_iff _ uri position
  · intro query
    rw [workspaceSymbols, Outline.ofModules_eq]
    simp
  · intro uri
    exact documentSymbols_answers settings acts uri
  · intro a id outcome h
    exact ended_answers h
  · intro id uri named h
    exact request_ends h

/-- What the indexer may publish: a sub on the line before the first. -/
def misplaced : Value :=
  .map [(.text "uri", .text "u"), (.text "elems", .list [.map
    [(.text "name", .text "a"), (.text "kind", .text "s"), (.text "line", .int (-1))]])]

def misplacedDocument : Document where
  uri := "u"
  buckets := [("a", [{ name := "a", tag := .known .localSub, line := -1 }])]

/-- Requests do fail, on a document that was loaded and on a module with a broken URI. -/
theorem requests_fail :
    Document.ofValue misplaced = .ok misplacedDocument ∧
    ((after {} [.publish misplacedDocument]).documentSymbols "u").2 =
      .failed (.request (.position ⟨.line, "-1"⟩)) ∧
    ((after {} [.publish { uri := "u" }, .openText "u" "Foo",
      .setModules [("Foo", "file://[bad")]]).hover "u" ⟨0, 1⟩).2 =
      .error (.uri .unbalanced) := by
  refine ⟨rfl, rfl, ?_⟩
  decide +kernel

/-- The outline of the document is asked for in the background. -/
def misplacedRun : List Act :=
  [.publish misplacedDocument, .request "r" "u" (by decide)]

theorem requests_fail_iff_misplaced :
    (after {} misplacedRun).OutlineFails "u" ∧
    (after {} (misplacedRun ++ [.settle])).EndsInTime "r" ∧
    ("r", .failed (.request (.position ⟨.line, "-1"⟩))) ∈
      ended (after {} misplacedRun).room ((after {} misplacedRun).act .settle).room := by
  obtain ⟨-, -, -, hanswers, hends⟩ := requests_fail_iff {} misplacedRun
  have hended : ended (after {} misplacedRun).room ((after {} misplacedRun).act .settle).room =
      [("r", .failed (.request (.position ⟨.line, "-1"⟩)))] := rfl
  have hm := hended ▸ List.mem_singleton_self _
  refine ⟨?_, hends "r" "u" (by decide) (by simp [misplacedRun]), hm⟩
  rcases hanswers .settle "r" _ hm with ⟨he, -⟩ | ⟨uri, named, hu, hanswer⟩
  · cases he
  · obtain rfl : uri = "u" := by simpa [misplacedRun] using hu
    rcases hanswer with ⟨⟨found, he⟩, -⟩ | ⟨-, hfails⟩
    · cases he
    · exact hfails

end PerlSymbols.Session
