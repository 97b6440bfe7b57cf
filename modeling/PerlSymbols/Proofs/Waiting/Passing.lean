import PerlSymbols.Proofs.Waiting.Desk
import PerlSymbols.Proofs.Waiting.Foreground
import PerlSymbols.Proofs.Waiting.Settling
import Mathlib.Data.List.Forall2
import Mathlib.Logic.Function.Iterate

/-!
# A desk while time passes

What becomes of a desk is settled by the desk and by the clock. In a room the clock also stops for
the deadlines of others, and nothing happens at the desk then.
-/

namespace PerlSymbols

variable {τ : Type} [Clock τ]

/-- How and when a task ended. -/
structure Ending (τ : Type) where
  id : String
  outcome : Outcome
  instant : τ

/-- The same task ended in the same way at the same time. -/
structure Ending.Same (e e' : Ending τ) : Prop where
  id : e.id = e'.id
  outcome : e.outcome = e'.outcome
  instant : Clock.Same e.instant e'.instant

namespace Desk

/-! ## A desk that settles -/

theorem turn_idle {desk : Desk τ} (now : τ) (h : desk.queue = []) : desk.turn now = desk := by
  unfold turn
  rw [h]

theorem iterate_idle {desk : Desk τ} (now : τ) (h : desk.queue = []) (n : Nat) :
    (turn now)^[n] desk = desk := by
  induction n with
  | zero => rfl
  | succ n ih => rw [Function.iterate_succ_apply, turn_idle now h, ih]

/-- All tasks that can run at a desk run until they wait or end. -/
def Settles (now : τ) (desk desk' : Desk τ) : Prop :=
  desk'.queue = [] ∧ ∃ n, (turn now)^[n] desk = desk'

theorem Settles.unique {now : τ} {desk desk₁ desk₂ : Desk τ} (h₁ : Settles now desk desk₁)
    (h₂ : Settles now desk desk₂) : desk₁ = desk₂ := by
  obtain ⟨hq₁, n, hn⟩ := h₁
  obtain ⟨hq₂, m, hm⟩ := h₂
  rcases Nat.le_total n m with hle | hle
  · obtain ⟨k, rfl⟩ := Nat.exists_eq_add_of_le' hle
    rw [Function.iterate_add_apply, hn, iterate_idle now hq₁] at hm
    exact hm
  · obtain ⟨k, rfl⟩ := Nat.exists_eq_add_of_le' hle
    rw [Function.iterate_add_apply, hm, iterate_idle now hq₂] at hn
    exact hn.symm

theorem settles_idle {desk : Desk τ} (now : τ) (h : desk.queue = []) : Settles now desk desk :=
  ⟨h, 0, rfl⟩

/-- Nobody at the desk is about to begin. -/
def Woken (desk : Desk τ) : Prop :=
  ∀ r ∈ desk.queue, r.wake ≠ .begin

omit [Clock τ] in
theorem seen_wake_ne_begin {ready : Option Nat} {r : Runnable τ} (h : r.wake ≠ .begin) :
    (r.seen ready).wake ≠ .begin := by
  obtain ⟨task, wake, n⟩ := r
  cases wake <;> simp_all [Runnable.seen, Wake.seen]

omit [Clock τ] in
theorem Woken.silence {desk : Desk τ} (h : desk.Woken) : desk.silence.Woken := by
  intro r hr
  obtain ⟨r', hr', rfl⟩ := List.mem_map.mp hr
  exact seen_wake_ne_begin (h r' hr')

omit [Clock τ] in
theorem Woken.leave {desk : Desk τ} (h : desk.Woken) (ticket : Ticket τ) :
    (desk.leave ticket).Woken := by
  have hrest : ∀ waiting, ({ desk with waiting } : Desk τ).Woken := fun _ => h
  simp only [Desk.leave]
  split
  · split
    · exact (hrest none).silence
    · exact hrest none
  · exact hrest _

theorem Woken.turn {desk : Desk τ} (h : desk.Woken) (now : τ) : (desk.turn now).Woken := by
  unfold Desk.turn
  split
  · exact h
  · next task wake rest hq =>
    have hrest : ({ desk with queue := rest } : Desk τ).Woken :=
      fun r hr => h r (hq ▸ List.mem_cons_of_mem _ hr)
    have hw : wake ≠ .begin := h ⟨task, wake, 0⟩ (hq ▸ List.mem_cons_self)
    cases wake with
    | begin => exact absurd rfl hw
    | abandoned => exact hrest
    | published ticket | expired ticket | cancelled ticket => exact hrest.leave ticket
  · next task wake n rest hq =>
    intro r hr
    rcases List.mem_append.mp hr with hr | hr
    · exact h r (hq ▸ List.mem_cons_of_mem _ hr)
    · rw [List.mem_singleton.mp hr]
      exact h ⟨task, wake, n + 1⟩ (hq ▸ List.mem_cons_self)

/-- Only a task that begins looks at the clock. -/
theorem Woken.turn_eq {desk : Desk τ} (h : desk.Woken) (now now' : τ) :
    desk.turn now = desk.turn now' := by
  unfold Desk.turn
  split
  · rfl
  · next task wake rest hq =>
    have hw : wake ≠ .begin := h ⟨task, wake, 0⟩ (hq ▸ List.mem_cons_self)
    cases wake with
    | begin => exact absurd rfl hw
    | abandoned | published | expired | cancelled => rfl
  · rfl

theorem Woken.iterate_eq {desk : Desk τ} (h : desk.Woken) (now now' : τ) (n : Nat) :
    (Desk.turn now)^[n] desk = (Desk.turn now')^[n] desk := by
  induction n generalizing desk with
  | zero => rfl
  | succ n ih =>
    rw [Function.iterate_succ_apply, Function.iterate_succ_apply, h.turn_eq now now']
    exact ih (h.turn now')

theorem Settles.congr_now {now : τ} {desk desk' : Desk τ} (h : Settles now desk desk')
    (hw : desk.Woken) (now' : τ) : Settles now' desk desk' := by
  obtain ⟨hq, n, hn⟩ := h
  exact ⟨hq, n, (hw.iterate_eq now' now n).trans hn⟩

/-! ## Endings -/

/-- The tasks that ended on the way from one desk to another, at an instant. -/
def endings (instant : τ) (desk desk' : Desk τ) : List (Ending τ) :=
  (desk'.finished.drop desk.finished.length).map fun entry => ⟨entry.1, entry.2, instant⟩

/-! ## A desk while time passes -/

/-- Nobody can run, and all deadlines can be compared. -/
structure Rests (desk : Desk τ) : Prop where
  idle : desk.queue = []
  sums : ∀ b ∈ desk.blocked, Clock.IsSum b.deadline

/-- Time passes at a desk up to an instant, from one of its deadlines to the next. -/
inductive Passes (target : τ) : Desk τ → List (Ending τ) → Desk τ → Prop
  | last {desk} (hrests : desk.Rests)
      (hlate : ∀ b ∈ desk.blocked, Clock.le b.deadline target = false) :
    Passes target desk [] desk
  | stop {desk desk' desk'' later} {instant : τ} (hrests : desk.Rests) (hsum : Clock.IsSum instant)
      (hdue : ∃ b ∈ desk.blocked, Clock.le b.deadline instant = true)
      (hfirst : ∀ b ∈ desk.blocked, Clock.le instant b.deadline = true)
      (hle : Clock.le instant target = true)
      (hsettles : Settles instant (desk.moveTo instant) desk')
      (hlater : Passes target desk' later desk'') :
    Passes target desk (endings instant desk desk' ++ later) desk''

theorem Rests.woken {desk : Desk τ} (h : desk.Rests) (instant : τ) : (desk.moveTo instant).Woken := by
  intro r hr
  rcases List.mem_append.mp hr with hr | hr
  · rw [h.idle] at hr
    cases hr
  · obtain ⟨b, -, rfl⟩ := List.mem_map.mp hr
    simp

/-- The same deadlines are reached at the same instant. -/
theorem moveTo_congr {desk : Desk τ} {a b : τ}
    (h : ∀ c ∈ desk.blocked, Clock.le c.deadline a = Clock.le c.deadline b) :
    desk.moveTo a = desk.moveTo b := by
  have hwoken : desk.blocked.filter (fun c => Clock.le c.deadline a) =
      desk.blocked.filter fun c => Clock.le c.deadline b :=
    List.filter_congr h
  have hstay : desk.blocked.filter (fun c => !Clock.le c.deadline a) =
      desk.blocked.filter fun c => !Clock.le c.deadline b :=
    List.filter_congr fun c hc => by rw [h c hc]
  simp only [moveTo, wakeWhere, hwoken, hstay]

omit [Clock τ] in
theorem endings_self (instant : τ) (desk : Desk τ) : endings instant desk desk = [] := by
  simp [endings]

theorem endings_same {a b : τ} (h : Clock.Same a b) (desk desk' : Desk τ) :
    List.Forall₂ Ending.Same (endings a desk desk') (endings b desk desk') := by
  unfold endings
  rw [List.forall₂_map_left_iff, List.forall₂_map_right_iff]
  exact List.forall₂_same.mpr fun entry _ => ⟨rfl, rfl, h⟩

theorem Passes.unique (hlines : Clock.Lines τ) {target : τ} (htarget : Clock.IsSum target)
    {desk desk₁ desk₂ : Desk τ} {endings₁ endings₂ : List (Ending τ)}
    (h₁ : Passes target desk endings₁ desk₁) (h₂ : Passes target desk endings₂ desk₂) :
    desk₁ = desk₂ ∧ List.Forall₂ Ending.Same endings₁ endings₂ := by
  induction h₁ generalizing desk₂ endings₂ with
  | last hrests hlate =>
    cases h₂ with
    | last => exact ⟨rfl, .nil⟩
    | stop _ hsum hdue _ hle _ _ =>
      obtain ⟨b, hb, hreached⟩ := hdue
      have := hlines.trans (hrests.sums b hb) hsum htarget hreached hle
      simp [hlate b hb] at this
  | @stop desk desk' desk'' later a hrests hsum hdue hfirst hle hsettles hlater ih =>
    cases h₂ with
    | last _ hlate =>
      obtain ⟨b, hb, hreached⟩ := hdue
      have := hlines.trans (hrests.sums b hb) hsum htarget hreached hle
      simp [hlate b hb] at this
    | @stop _ desk₃ _ later' a' _ hsum' hdue' hfirst' hle' hsettles' hlater' =>
      have hsame : Clock.Same a a' := by
        obtain ⟨b, hb, hreached⟩ := hdue
        obtain ⟨b', hb', hreached'⟩ := hdue'
        right
        exact ⟨hlines.trans hsum (hrests.sums b' hb') hsum' (hfirst b' hb') hreached',
          hlines.trans hsum' (hrests.sums b hb) hsum (hfirst' b hb) hreached⟩
      have hmove : desk.moveTo a = desk.moveTo a' := by
        rcases hsame with rfl | ⟨haa', ha'a⟩
        · rfl
        apply moveTo_congr
        intro b hb
        rw [Bool.eq_iff_iff]
        exact ⟨fun h => hlines.trans (hrests.sums b hb) hsum hsum' h haa',
          fun h => hlines.trans (hrests.sums b hb) hsum' hsum h ha'a⟩
      have hdesk : desk' = desk₃ := by
        rw [hmove] at hsettles
        exact (hsettles.congr_now (hrests.woken a') a').unique hsettles'
      subst hdesk
      obtain ⟨hend, hlater₂⟩ := ih hlater'
      exact ⟨hend, List.rel_append (endings_same hsame desk desk') hlater₂⟩

end Desk

namespace Room

variable {owner : String → String} {uri : String} {room : Room τ}

/-! ## Rooms -/

/-- The books are kept, every task has the id of its URI, and the clock reaches every deadline. -/
structure Sound (owner : String → String) (room : Room τ) : Prop where
  kept : room.Kept
  queued : ∀ r ∈ room.queue, owner r.task.id = r.task.uri
  asleep : ∀ b ∈ room.blocked, owner b.task.id = b.task.uri
  timed : ∀ b ∈ room.blocked, Clock.IsSum b.deadline ∧ Clock.le b.deadline b.deadline = true

/-- Tasks come from where the tasks of a sound room are. -/
theorem Sound.of_mem {room' : Room τ} (h : room.Sound owner) (hkept : room'.Kept)
    (hqueue : ∀ r ∈ room'.queue, (∃ r' ∈ room.queue, r'.task = r.task) ∨
      ∃ b ∈ room.blocked, b.task = r.task)
    (hblocked : ∀ b ∈ room'.blocked, b ∈ room.blocked) : room'.Sound owner where
  kept := hkept
  queued r hr := by
    rcases hqueue r hr with ⟨r', hr', he⟩ | ⟨b, hb, he⟩
    · exact he ▸ h.queued r' hr'
    · exact he ▸ h.asleep b hb
  asleep b hb := h.asleep b (hblocked b hb)
  timed b hb := h.timed b (hblocked b hb)

omit [Clock τ] in
theorem mem_wakeWhere_queue {which : Blocked τ → Bool} {wake : Ticket τ → Wake τ} {count : Nat}
    {r : Runnable τ} (h : r ∈ (room.wakeWhere which wake count).queue) :
    r ∈ room.queue ∨ ∃ b ∈ room.blocked, b.task = r.task := by
  rcases List.mem_append.mp h with h | h
  · exact Or.inl h
  · obtain ⟨b, hb, rfl⟩ := List.mem_map.mp h
    exact Or.inr ⟨b, (List.mem_filter.mp hb).1, rfl⟩

theorem Sound.publish (h : room.Sound owner) (request : Option String) (doc : Document) :
    (room.publish request doc).Sound owner := by
  refine h.of_mem (h.kept.publish request doc) ?_ fun b hb => (List.mem_filter.mp hb).1
  intro r hr
  rcases mem_wakeWhere_queue hr with hr | hb
  · obtain ⟨r', hr', rfl⟩ := List.mem_map.mp hr
    exact Or.inl ⟨r', hr', (shorten_task _ r').symm⟩
  · exact Or.inr hb

theorem Sound.discard (h : room.Sound owner) (request : Option String) (uri : String) :
    (room.discard request uri).Sound owner := by
  refine h.of_mem (h.kept.discard request uri) ?_ ?_
  · intro r hr
    exact Or.inl ⟨r, discard_queue room request uri ▸ hr, rfl⟩
  · intro b hb
    exact discard_blocked room request uri ▸ hb

theorem Sound.start (h : room.Sound owner) {task : Task τ} (ht : owner task.id = task.uri) :
    (room.start task).Sound owner where
  kept := h.kept.start task
  queued r hr := by
    rcases List.mem_append.mp hr with hr | hr
    · exact h.queued r hr
    · rw [List.mem_singleton.mp hr]
      exact ht
  asleep := h.asleep
  timed := h.timed

theorem Sound.cancel (h : room.Sound owner) (id : String) : (room.cancel id).Sound owner := by
  refine h.of_mem (h.kept.cancel id) ?_ fun b hb => (List.mem_filter.mp hb).1
  intro r hr
  rcases mem_wakeWhere_queue hr with hr | hb
  · obtain ⟨r', hr', ht, -⟩ := mem_cancelQueue hr
    exact Or.inl ⟨r', hr', ht.symm⟩
  · exact Or.inr hb

theorem Sound.moveTo (h : room.Sound owner) (instant : τ) : (room.moveTo instant).Sound owner := by
  refine h.of_mem (h.kept.moveTo instant) ?_ fun b hb => (List.mem_filter.mp hb).1
  intro r hr
  exact (mem_wakeWhere_queue hr).imp (fun hr => ⟨r, hr, rfl⟩) id

theorem Sound.settle (horders : Clock.Orders τ) (h : room.Sound owner) :
    room.settle.Sound owner := by
  have hsettling := settling_settle room
  have hcomes : ∀ {call task timeout}, Comes room call task timeout →
      owner task.id = task.uri := by
    intro call task timeout hc
    obtain ⟨n, hm⟩ := hc.due
    rw [hc.same.id, hc.same.uri]
    exact h.queued _ hm
  refine ⟨h.kept.settle, ?_, ?_, ?_⟩
  · simp [settle_queue]
  · intro b hb
    rcases hsettling.blocked b hb with hb | ⟨call, hc, -⟩
    · exact h.asleep b hb
    · exact hcomes hc
  · intro b hb
    rcases hsettling.blocked b hb with hb | ⟨call, hc, hdeadline, hahead⟩
    · exact h.timed b hb
    · exact ⟨⟨_, _, hdeadline⟩, horders _ _ (le_of_liesAhead hahead)⟩

theorem Kept.turn {room : Room τ} (h : room.Kept) : room.turn.Kept := by
  rcases room.turn_step with he | hs
  · exact he.symm ▸ h
  · exact h.step hs

/-- A room that settles, settles at every desk. -/
theorem desk_settle (uri : String) (h : room.Sound owner) :
    (room.desk owner uri).Settles room.now (room.settle.desk owner uri) := by
  constructor
  · simp [desk, settle_queue]
  let P : Room τ → Prop := fun room' => Settling room room' ∧ room'.Kept ∧
    ∃ n, (Desk.turn room.now)^[n] (room.desk owner uri) = room'.desk owner uri
  have hturn : ∀ room' : Room τ, P room' → P room'.turn := by
    rintro room' ⟨hsettling, hkept, n, hn⟩
    refine ⟨hsettling.turn, hkept.turn, ?_⟩
    have howner : ∀ r ∈ room'.queue, owner r.task.id = r.task.uri := by
      intro r hr
      rcases hsettling.queue r hr with ⟨n, hm⟩ | ⟨call, _, -, hc, -⟩
      · exact h.queued ⟨r.task, r.wake, n⟩ hm
      · obtain ⟨n, hm⟩ := hc.due
        rw [hc.same.id, hc.same.uri]
        exact h.queued _ hm
    rcases room'.desk_turn hkept.books.issued howner with he | he
    · exact ⟨n, hn.trans he.symm⟩
    · refine ⟨n + 1, ?_⟩
      rw [Function.iterate_succ_apply', hn, he, hsettling.now]
  exact (turns_keep hturn _ _ ⟨settling_refl room, h.kept, 0, rfl⟩).2.2

/-! ## Endings in a room -/

/-- How and when the tasks ended in the course of some operations. -/
def endings (room : Room τ) : List (Op τ) → List (Ending τ)
  | [] => []
  | op :: ops =>
    (ended room (room.apply op)).map (fun entry => ⟨entry.1, entry.2, (room.apply op).now⟩) ++
      (room.apply op).endings ops

def endingsAt (owner : String → String) (uri : String) (room : Room τ) (ops : List (Op τ)) :
    List (Ending τ) :=
  (room.endings ops).filter fun e => owner e.id = uri

theorem finished_apply (room : Room τ) (op : Op τ) :
    room.finished <+: (room.apply op).finished := by
  cases op with
  | publish | start | cancel => exact List.prefix_refl _
  | discard request uri =>
    simp only [apply, discard]
    split <;> exact List.prefix_refl _
  | settle => exact (settling_settle room).grows
  | moveOn instant => exact (settling_settle (room.moveTo instant)).grows

/-- What ends in a room is seen at the desk. -/
theorem endingsAt_cons (op : Op τ) (ops : List (Op τ)) :
    endingsAt owner uri room (op :: ops) =
      Desk.endings (room.apply op).now (room.desk owner uri) ((room.apply op).desk owner uri) ++
        endingsAt owner uri (room.apply op) ops := by
  obtain ⟨more, hmore⟩ := finished_apply room op
  have hown : (room.apply op).finished.filter (fun entry => owner entry.1 = uri) =
      room.finished.filter (fun entry => owner entry.1 = uri) ++
        more.filter fun entry => owner entry.1 = uri := by
    rw [← hmore, List.filter_append]
  simp only [endingsAt, endings, List.filter_append, ended, Desk.endings, desk, hown,
    List.drop_left, List.filter_map, Function.comp_def]
  rw [← hmore, List.drop_left]

/-! ## Time passing in a room -/

/-- The next deadline is the first one. -/
theorem nextDeadline?_first (hlines : Clock.Lines τ)
    (htimed : ∀ b ∈ room.blocked, Clock.IsSum b.deadline ∧ Clock.le b.deadline b.deadline = true)
    {deadline : τ} (hnext : room.nextDeadline? = some deadline) :
    Clock.IsSum deadline ∧ ∀ b ∈ room.blocked, Clock.le deadline b.deadline = true := by
  have hfirst : ∀ (others : List (Blocked τ)) (best : Blocked τ),
      (∀ b ∈ best :: others, Clock.IsSum b.deadline ∧ Clock.le b.deadline b.deadline = true) →
      ({ room with blocked := best :: others } : Room τ).nextDeadline? = some deadline →
      Clock.IsSum deadline ∧ ∀ b ∈ best :: others, Clock.le deadline b.deadline = true := by
    intro others
    induction others with
    | nil =>
      intro best htimed hnext
      obtain rfl : best.deadline = deadline := Option.some.inj hnext
      obtain ⟨hsum, hself⟩ := htimed best List.mem_cons_self
      exact ⟨hsum, by simpa using hself⟩
    | cons other others ih =>
      intro best htimed hnext
      simp only [List.forall_mem_cons] at htimed ⊢
      obtain ⟨hbest, hother, hothers⟩ := htimed
      by_cases hle : Clock.le best.deadline other.deadline = true
      · obtain ⟨hsum, hall⟩ := ih best (List.forall_mem_cons.mpr ⟨hbest, hothers⟩)
          (by simpa [nextDeadline?, hle] using hnext)
        obtain ⟨hfirst, hrest⟩ := List.forall_mem_cons.mp hall
        exact ⟨hsum, hfirst, hlines.trans hsum hbest.1 hother.1 hfirst hle, hrest⟩
      · obtain ⟨hsum, hall⟩ := ih other (List.forall_mem_cons.mpr ⟨hother, hothers⟩)
          (by simpa [nextDeadline?, hle] using hnext)
        obtain ⟨hfirst, hrest⟩ := List.forall_mem_cons.mp hall
        have hge := (hlines.total hbest.1 hother.1 hbest.2 hother.2).resolve_left hle
        exact ⟨hsum, hlines.trans hsum hother.1 hbest.1 hfirst hge, hfirst, hrest⟩
  cases hb : room.blocked with
  | nil => simp [nextDeadline?, hb] at hnext
  | cons best others => exact hfirst others best (hb ▸ htimed) (by rw [← hnext, ← hb])

theorem desk_rests (uri : String) (h : room.Sound owner) (hidle : room.queue = []) :
    (room.desk owner uri).Rests where
  idle := by simp [desk, hidle]
  sums b hb := by
    obtain ⟨b', hb', rfl⟩ := List.mem_map.mp hb
    exact (h.timed b' (List.mem_filter.mp hb').1).1

omit [Clock τ] in
/-- A deadline at the desk is one in the room. -/
theorem exists_of_mem_desk_blocked {b : Blocked τ} (h : b ∈ (room.desk owner uri).blocked) :
    ∃ b' ∈ room.blocked, b'.deadline = b.deadline := by
  obtain ⟨b', hb', rfl⟩ := List.mem_map.mp h
  exact ⟨b', (List.mem_filter.mp hb').1, rfl⟩

theorem settle_now (room : Room τ) : room.settle.now = room.now :=
  (settling_settle room).now

theorem Sound.moveOn (horders : Clock.Orders τ) (h : room.Sound owner) (instant : τ) :
    (room.apply (.moveOn instant)).Sound owner :=
  (h.moveTo instant).settle horders

theorem desk_moveOn (uri : String) (h : room.Sound owner) (instant : τ) :
    ((room.desk owner uri).moveTo instant).Settles instant
      ((room.apply (.moveOn instant)).desk owner uri) := by
  rw [← desk_moveTo room instant]
  exact desk_settle uri (h.moveTo instant)

/-- The clock stops where nothing is due at the desk. -/
theorem desk_moveOn_idle (h : room.Sound owner) (hidle : room.queue = []) {instant : τ}
    (hlate : ∀ b ∈ (room.desk owner uri).blocked, Clock.le b.deadline instant = false) :
    (room.apply (.moveOn instant)).desk owner uri = room.desk owner uri := by
  have hsettles := desk_moveOn uri h instant
  rw [show (room.desk owner uri).moveTo instant = room.desk owner uri from
    Desk.wakeWhere_none _ _ hlate] at hsettles
  exact hsettles.unique (Desk.settles_idle instant (desk_rests uri h hidle).idle)

theorem sleepersToCome_settle (room : Room τ) :
    room.settle.sleepersToCome ≤ room.sleepersToCome := by
  refine turns_keep (P := fun room' => room'.sleepersToCome ≤ room.sleepersToCome) ?_ _ _
    (Nat.le_refl _)
  intro room' h
  exact (sleepersToCome_turn room').trans h

/-- Time that passes in a room passes at every desk. -/
theorem desk_strides (uri : String) (hlines : Clock.Lines τ) {target : τ} (htarget : Clock.IsSum target)
    {fuel : Nat} (h : room.Sound owner) (hidle : room.queue = [])
    (hfuel : room.sleepersToCome < fuel) :
    (room.desk owner uri).Passes target (endingsAt owner uri room (strides target fuel room))
        ((room.carryOut (strides target fuel room)).desk owner uri) ∧
      (room.carryOut (strides target fuel room)).now = target := by
  induction fuel generalizing room with
  | zero => omega
  | succ fuel ih =>
    have hrests := desk_rests uri h hidle
    -- The last stop is the target.
    have hlast : (∀ b ∈ room.blocked, Clock.le b.deadline target = false) →
        (room.desk owner uri).Passes target (endingsAt owner uri room [.moveOn target])
            ((room.carryOut [.moveOn target]).desk owner uri) ∧
          (room.carryOut [.moveOn target]).now = target := by
      intro hlate
      have hlate' : ∀ b ∈ (room.desk owner uri).blocked, Clock.le b.deadline target = false := by
        intro b hb
        obtain ⟨b', hb', he⟩ := exists_of_mem_desk_blocked hb
        exact he ▸ hlate b' hb'
      have hdesk := desk_moveOn_idle h hidle hlate'
      refine ⟨?_, settle_now _⟩
      rw [endingsAt_cons, hdesk, Desk.endings_self]
      show Desk.Passes target _ _ ((room.apply (.moveOn target)).desk owner uri)
      rw [hdesk]
      exact .last hrests hlate'
    unfold strides
    cases hnext : room.nextDeadline? with
    | none =>
      apply hlast
      intro b hb
      obtain ⟨_, _, he⟩ := nextDeadline?_eq_some (List.ne_nil_of_mem hb)
      rw [hnext] at he
      cases he
    | some deadline =>
      obtain ⟨hsum, hfirst⟩ := nextDeadline?_first hlines h.timed hnext
      by_cases hle : Clock.le deadline target = true
      · simp only [hle, if_true]
        have hsound := h.moveOn hlines.orders deadline
        have hless : (room.apply (.moveOn deadline)).sleepersToCome < fuel := by
          obtain ⟨b, hb, he⟩ := nextDeadline?_eq_some (show room.blocked ≠ [] from fun hnil => by
            simp [nextDeadline?, hnil] at hnext)
          obtain rfl : deadline = b.deadline := Option.some.inj (hnext.symm.trans he)
          have hmove := sleepersToCome_moveTo hb (h.timed b hb).2
          have hsettle := sleepersToCome_settle (room.moveTo b.deadline)
          show (room.moveTo b.deadline).settle.sleepersToCome < fuel
          omega
        obtain ⟨hpasses, hnow⟩ := ih hsound (settle_queue _) hless
        refine ⟨?_, hnow⟩
        rw [endingsAt_cons]
        by_cases hdue : ∃ b ∈ (room.desk owner uri).blocked, Clock.le b.deadline deadline = true
        · have hnow' : (room.apply (.moveOn deadline)).now = deadline := settle_now _
          rw [hnow']
          refine .stop hrests hsum hdue ?_ hle (desk_moveOn uri h deadline) hpasses
          intro b hb
          obtain ⟨b', hb', he⟩ := exists_of_mem_desk_blocked hb
          exact he ▸ hfirst b' hb'
        · -- The stop is for someone else.
          have hdesk : (room.apply (.moveOn deadline)).desk owner uri = room.desk owner uri :=
            desk_moveOn_idle h hidle (by simpa using hdue)
          rw [hdesk, Desk.endings_self]
          exact hdesk ▸ hpasses
      · simp only [hle, Bool.false_eq_true, if_false]
        apply hlast
        intro b hb
        rw [Bool.eq_false_iff]
        intro hreached
        exact hle (hlines.trans hsum (h.timed b hb).1 htarget (hfirst b hb) hreached)

end Room

end PerlSymbols
