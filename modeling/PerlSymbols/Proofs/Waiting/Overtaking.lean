import PerlSymbols.Proofs.Waiting.Wakeup
import Mathlib.Data.List.Pairwise

/-!
# Nobody is overtaken

After a document was published and discarded, waiters with an old signal may still be on their way
out while others wait for a new one. In the order of the queue, those with an old signal leave
first. So the last to leave is one with the signal that is still kept, and it takes it away.
-/

namespace PerlSymbols

/-- The task is to end as a cancelled one. -/
def Wake.isCancelled {τ : Type} : Wake τ → Bool
  | .abandoned | .cancelled _ => true
  | _ => false

namespace Room

variable {τ : Type}

/-- Of two waiters at one URI, the first before the second in the queue, the one with the old signal
leaves before the one with the new signal. -/
def NotOvertaken (index : Index) (r r' : Runnable τ) : Prop :=
  ∀ seat seat', r.seat? = some seat → r'.seat? = some seat' → seat.uri = seat'.uri →
    (¬ index.Current seat → index.Current seat' → r.handoffs ≤ r'.handoffs) ∧
    (index.Current seat → ¬ index.Current seat' → r'.handoffs < r.handoffs)

structure InOrder (index : Index) (queue : List (Runnable τ)) : Prop where
  /-- A signal that was given is no longer kept. -/
  given : ∀ r ∈ queue, ∀ ticket, r.wake = .published ticket →
    ¬ index.Current ⟨r.task.uri, ticket.signal⟩
  /-- Few hand-offs remain for those with an old signal. -/
  soon : ∀ r ∈ queue, ∀ seat, r.seat? = some seat → ¬ index.Current seat →
    r.handoffs ≤ handoffs.published
  order : queue.Pairwise (NotOvertaken index)

theorem InOrder.congr {index index' : Index} {queue : List (Runnable τ)} (h : InOrder index queue)
    (hc : ∀ r ∈ queue, ∀ seat, r.seat? = some seat → (index'.Current seat ↔ index.Current seat)) :
    InOrder index' queue where
  given r hr ticket hw := by
    rw [hc r hr _ (by simp [Runnable.seat?, hw, Wake.ticket?])]
    exact h.given r hr ticket hw
  soon r hr seat hs := by
    rw [hc r hr seat hs]
    exact h.soon r hr seat hs
  order := by
    refine h.order.imp_of_mem ?_
    intro r r' hr hr' hn seat seat' hs hs' hu
    rw [hc r hr seat hs, hc r' hr' seat' hs']
    exact hn seat seat' hs hs' hu

theorem InOrder.tail {index : Index} {r : Runnable τ} {rest : List (Runnable τ)}
    (h : InOrder index (r :: rest)) : InOrder index rest where
  given r hr := h.given r (List.mem_cons_of_mem _ hr)
  soon r hr := h.soon r (List.mem_cons_of_mem _ hr)
  order := (List.pairwise_cons.mp h.order).2

/-- Those who come to the end of the queue with the signal that is kept have at least as many
hand-offs before them as a publication takes. -/
theorem InOrder.append {index : Index} {queue more : List (Runnable τ)} (h : InOrder index queue)
    (hw : ∀ r ∈ more, ∀ ticket, r.wake ≠ .published ticket)
    (hc : ∀ r ∈ more, ∀ seat, r.seat? = some seat →
      index.Current seat ∧ handoffs.published ≤ r.handoffs) :
    InOrder index (queue ++ more) where
  given r hr ticket he := by
    rcases List.mem_append.mp hr with hr | hr
    · exact h.given r hr ticket he
    · exact absurd he (hw r hr ticket)
  soon r hr seat hs hold := by
    rcases List.mem_append.mp hr with hr | hr
    · exact h.soon r hr seat hs hold
    · exact absurd (hc r hr seat hs).1 hold
  order := by
    rw [List.pairwise_append]
    refine ⟨h.order, ?_, ?_⟩
    · refine List.pairwise_of_forall_mem_list fun r hr r' hr' seat seat' hs hs' _ => ⟨?_, ?_⟩
      · exact fun hold => absurd (hc r hr seat hs).1 hold
      · exact fun _ hold => absurd (hc r' hr' seat' hs').1 hold
    · intro r hr r' hr' seat seat' hs hs' _
      refine ⟨fun hold _ => ?_, fun _ hold => absurd (hc r' hr' seat' hs').1 hold⟩
      exact Nat.le_trans (h.soon r hr seat hs hold) (hc r' hr' seat' hs').2

/-- A wake-up that is handed on goes to the end of the queue. -/
theorem InOrder.handOn {index : Index} {task : Task τ} {wake : Wake τ} {n : Nat}
    {rest : List (Runnable τ)} (h : InOrder index (⟨task, wake, n + 1⟩ :: rest)) :
    InOrder index (rest ++ [⟨task, wake, n⟩]) where
  given r hr := by
    rcases List.mem_append.mp hr with hr | hr
    · exact h.tail.given r hr
    · rw [List.mem_singleton.mp hr]
      exact h.given ⟨task, wake, n + 1⟩ List.mem_cons_self
  soon r hr := by
    rcases List.mem_append.mp hr with hr | hr
    · exact h.tail.soon r hr
    · rw [List.mem_singleton.mp hr]
      intro seat hs hold
      exact Nat.le_of_succ_le (h.soon ⟨task, wake, n + 1⟩ List.mem_cons_self seat hs hold)
  order := by
    obtain ⟨hhead, htail⟩ := List.pairwise_cons.mp h.order
    rw [List.pairwise_append]
    refine ⟨htail, List.pairwise_singleton _ _, ?_⟩
    intro r hr r' hr' seat seat' hs hs' hu
    rw [List.mem_singleton.mp hr'] at hs' ⊢
    -- What was true with the task in front is true with it at the end, one hand-off later.
    obtain ⟨h₁, h₂⟩ := hhead r hr seat' seat hs' hs hu.symm
    exact ⟨fun hold hnew => Nat.le_of_lt_succ (h₂ hnew hold),
      fun hnew hold => Nat.lt_of_succ_le (h₁ hold hnew)⟩

/-! ## Publishing -/

theorem shorten_of_signal {signal : Nat} {r : Runnable τ} {seat : Seat} (hs : r.seat? = some seat)
    (he : seat.signal = signal) :
    (shorten (some signal) r).handoffs ≤ handoffs.published := by
  obtain ⟨ticket, ht, rfl⟩ := Option.map_eq_some_iff.mp hs
  simp only at he
  simp only [shorten, ht, he, beq_self_eq_true, if_true]
  exact Nat.min_le_right ..

theorem shorten_of_ne {signal : Option Nat} {r : Runnable τ} {seat : Seat}
    (hs : r.seat? = some seat) (he : some seat.signal ≠ signal) : shorten signal r = r := by
  obtain ⟨ticket, ht, rfl⟩ := Option.map_eq_some_iff.mp hs
  simp only at he
  simp [shorten, ht, he]

theorem not_current_publish (index : Index) {doc : Document} {seat : Seat}
    (h : seat.uri = doc.uri) : ¬ (index.publish doc).1.Current seat := by
  rw [Index.Current, Index.publish_ready, if_pos h.symm]
  simp

theorem current_publish {index : Index} {doc : Document} {seat : Seat} (h : seat.uri ≠ doc.uri) :
    (index.publish doc).1.Current seat ↔ index.Current seat := by
  rw [Index.Current, Index.publish_ready, if_neg (Ne.symm h), Index.Current]

/-- Whoever leaves for another reason when its signal is given is shortened, so that it leaves as
soon as those whom the signal wakes. -/
theorem InOrder.shorten {index : Index} {queue : List (Runnable τ)} {seats : List Seat}
    (h : InOrder index queue) (hbooks : index.Keeps seats)
    (hseats : ∀ r ∈ queue, ∀ seat, r.seat? = some seat → seat ∈ seats) (doc : Document) :
    InOrder (index.publish doc).1 (queue.map (shorten (index.ready.get? doc.uri))) := by
  -- A waiter at another URI has another signal, so it stays as it is.
  have hother : ∀ r ∈ queue, ∀ seat, r.seat? = some seat → seat.uri ≠ doc.uri →
      Room.shorten (index.ready.get? doc.uri) r = r := by
    intro r hr seat hs hne
    apply shorten_of_ne hs
    intro he
    exact hne (hbooks.own seat (hseats r hr seat hs) doc.uri he.symm)
  constructor
  case given =>
    intro r' hr' ticket hw
    obtain ⟨r, hr, rfl⟩ := List.mem_map.mp hr'
    obtain ⟨n, -, he⟩ := shorten_eq (index.ready.get? doc.uri) r
    rw [he] at hw ⊢
    by_cases hu : r.task.uri = doc.uri
    · exact not_current_publish index hu
    · rw [current_publish hu]
      exact h.given r hr ticket hw
  case soon =>
    intro r' hr' seat hs hold
    obtain ⟨r, hr, rfl⟩ := List.mem_map.mp hr'
    rw [shorten_seat?] at hs
    by_cases hc : index.Current seat
    · have hu : seat.uri = doc.uri := by
        by_contra hne
        exact hold ((current_publish hne).mpr hc)
      rw [Index.Current, hu] at hc
      rw [hc]
      exact shorten_of_signal hs rfl
    · obtain ⟨n, hn, he⟩ := shorten_eq (index.ready.get? doc.uri) r
      rw [he]
      exact Nat.le_trans hn (h.soon r hr seat hs hc)
  case order =>
    rw [List.pairwise_map]
    refine h.order.imp_of_mem ?_
    intro r r' hr hr' hn seat seat' hs hs' hu
    rw [shorten_seat?] at hs hs'
    by_cases hd : seat.uri = doc.uri
    · have hold := not_current_publish index hd
      have hold' := not_current_publish index (hu ▸ hd)
      exact ⟨fun _ hnew => absurd hnew hold', fun hnew => absurd hnew hold⟩
    · rw [hother r hr seat hs hd, hother r' hr' seat' hs' (hu ▸ hd), current_publish hd,
        current_publish (hu ▸ hd)]
      exact hn seat seat' hs hs' hu

/-- Those whom the signal wakes come to the end of the queue when nobody at their URI has a signal
that is kept. -/
theorem InOrder.append_given {index : Index} {queue more : List (Runnable τ)}
    (h : InOrder index queue) {uri : String} (hn : index.ready.get? uri = none)
    (hm : ∀ r ∈ more, r.task.uri = uri ∧ r.handoffs ≤ handoffs.published) :
    InOrder index (queue ++ more) := by
  have hold : ∀ seat : Seat, seat.uri = uri → ¬ index.Current seat := by
    intro seat he hc
    rw [Index.Current, he, hn] at hc
    cases hc
  have huri : ∀ r ∈ more, ∀ seat, r.seat? = some seat → seat.uri = uri := by
    intro r hr seat hs
    obtain ⟨ticket, -, rfl⟩ := Option.map_eq_some_iff.mp hs
    exact (hm r hr).1
  constructor
  case given =>
    intro r hr ticket hw
    rcases List.mem_append.mp hr with hr | hr
    · exact h.given r hr ticket hw
    · exact hold _ (hm r hr).1
  case soon =>
    intro r hr seat hs hc
    rcases List.mem_append.mp hr with hr | hr
    · exact h.soon r hr seat hs hc
    · exact (hm r hr).2
  case order =>
    have hboth : ∀ r r' : Runnable τ, r' ∈ more → NotOvertaken index r r' := by
      intro r r' hr' seat seat' hs hs' hu
      have he := huri r' hr' seat' hs'
      exact ⟨fun _ hc => absurd hc (hold seat' he), fun hc => absurd hc (hold seat (hu.trans he))⟩
    rw [List.pairwise_append]
    exact ⟨h.order, List.pairwise_of_forall_mem_list fun r _ r' hr' => hboth r r' hr',
      fun r _ r' hr' => hboth r r' hr'⟩

/-! ## Cancelling -/

/-- Wherever the two stand, an old signal has no more hand-offs left than a new one. -/
theorem InOrder.le_of_mem {index : Index} {queue : List (Runnable τ)} (h : InOrder index queue)
    {r r' : Runnable τ} (hr : r ∈ queue) (hr' : r' ∈ queue) {seat seat' : Seat}
    (hs : r.seat? = some seat) (hs' : r'.seat? = some seat') (hu : seat.uri = seat'.uri)
    (hold : ¬ index.Current seat) (hnew : index.Current seat') : r.handoffs ≤ r'.handoffs := by
  have hne : r ≠ r' := by
    rintro rfl
    rw [hs] at hs'
    cases hs'
    exact hold hnew
  have hsym := h.order.imp (S := fun r r' => NotOvertaken index r r' ∨ NotOvertaken index r' r) Or.inl
  rcases @List.Pairwise.forall _ _ _ ⟨fun _ _ => Or.symm⟩ hsym _ hr _ hr' hne with hn | hn
  · exact (hn seat seat' hs hs' hu).1 hold hnew
  · exact Nat.le_of_lt ((hn seat' seat hs' hs hu.symm).2 hnew hold)

theorem isHastened_iff {r : Runnable τ} :
    isHastened r = true ↔ (∃ ticket, r.wake = .published ticket) ∧ r.handoffs ≠ 0 := by
  obtain ⟨task, wake, n⟩ := r
  cases wake <;> simp [isHastened]

theorem cancelRunnable_handoffs {r : Runnable τ} (h : isHastened r = false) :
    (cancelRunnable r).handoffs = r.handoffs := by
  obtain ⟨task, wake, n⟩ := r
  cases wake <;> simp_all [isHastened, cancelRunnable]

theorem cancelRunnable_wake (r : Runnable τ) :
    (cancelRunnable r).wake = r.wake ∨ (cancelRunnable r).wake.isCancelled = true := by
  obtain ⟨task, wake, n⟩ := r
  cases wake <;> simp [cancelRunnable, Wake.isCancelled]

theorem cancelRunnable_task (r : Runnable τ) : (cancelRunnable r).task = r.task := by
  obtain ⟨task, wake, n⟩ := r
  cases wake <;> rfl

theorem cancelInPlace_handoffs {id : String} {r : Runnable τ}
    (h : (!(r.task.id == id && isHastened r)) = true) :
    (cancelInPlace id r).handoffs = r.handoffs := by
  unfold cancelInPlace
  split
  · next hid => exact cancelRunnable_handoffs (by simpa [hid] using h)
  · rfl

/-- Of what a cancellation leaves in the queue, nothing has another seat than before, or more
hand-offs, or another wake-up but to end as a cancelled task. -/
theorem mem_cancelQueue {id : String} {queue : List (Runnable τ)} {r' : Runnable τ}
    (h : r' ∈ cancelQueue id queue) :
    ∃ r ∈ queue, r'.task = r.task ∧ r'.seat? = r.seat? ∧ r'.handoffs ≤ r.handoffs ∧
      (r'.wake = r.wake ∨ r.task.id = id ∧ r'.wake.isCancelled = true) := by
  rcases List.mem_append.mp h with h | h
  · obtain ⟨r, hr, rfl⟩ := List.mem_map.mp h
    obtain ⟨hr, hh⟩ := List.mem_filter.mp hr
    refine ⟨r, hr, ?_, cancelInPlace_seat? id r, Nat.le_of_eq (cancelInPlace_handoffs hh), ?_⟩
    · unfold cancelInPlace
      split
      · exact cancelRunnable_task r
      · rfl
    · unfold cancelInPlace
      split
      · next hid => exact (cancelRunnable_wake r).imp_right fun h => ⟨by simpa using hid, h⟩
      · exact Or.inl rfl
  · obtain ⟨r, hr, rfl⟩ := List.mem_map.mp h
    obtain ⟨hr, hh⟩ := List.mem_filter.mp hr
    simp only [Bool.and_eq_true] at hh
    obtain ⟨⟨ticket, hw⟩, -⟩ := isHastened_iff.mp hh.2
    have hz : (cancelRunnable r).handoffs = 0 := by simp [cancelRunnable, hw]
    exact ⟨r, hr, cancelRunnable_task r, cancelRunnable_seat? r, by omega,
      (cancelRunnable_wake r).imp_right fun h => ⟨by simpa using hh.1, h⟩⟩

theorem InOrder.cancel {index : Index} {queue : List (Runnable τ)} (h : InOrder index queue)
    (id : String) : InOrder index (cancelQueue id queue) := by
  -- A task that is hastened was woken by a publication, so its signal is an old one.
  have hhastened : ∀ r ∈ queue.filter (fun r => r.task.id == id && isHastened r),
      ∀ seat, r.seat? = some seat →
        r ∈ queue ∧ ¬ index.Current seat ∧ (cancelRunnable r).handoffs = 0 ∧ r.handoffs ≠ 0 := by
    intro r hr seat hs
    obtain ⟨hr, hh⟩ := List.mem_filter.mp hr
    simp only [Bool.and_eq_true] at hh
    obtain ⟨⟨ticket, hw⟩, hn⟩ := isHastened_iff.mp hh.2
    have hseat : seat = ⟨r.task.uri, ticket.signal⟩ := by
      simpa [Runnable.seat?, hw, Wake.ticket?] using hs.symm
    exact ⟨hr, hseat ▸ h.given r hr ticket hw, by simp [cancelRunnable, hw], hn⟩
  constructor
  case given =>
    intro r' hr' ticket hw
    obtain ⟨r, hr, ht, -, -, hwake⟩ := mem_cancelQueue hr'
    have hgiven : r.wake = .published ticket := by
      rcases hwake with he | ⟨-, he⟩
      · rw [← he, hw]
      · rw [hw] at he
        cases he
    rw [ht]
    exact h.given r hr ticket hgiven
  case soon =>
    intro r' hr' seat hs hold
    obtain ⟨r, hr, -, he, hn, -⟩ := mem_cancelQueue hr'
    exact Nat.le_trans hn (h.soon r hr seat (he ▸ hs) hold)
  case order =>
    rw [cancelQueue, List.pairwise_append, List.pairwise_map, List.pairwise_map]
    refine ⟨?_, ?_, ?_⟩
    · refine (h.order.filter _).imp_of_mem ?_
      intro r r' hr hr' hn seat seat' hs hs' hu
      rw [cancelInPlace_seat?] at hs hs'
      rw [cancelInPlace_handoffs (List.mem_filter.mp hr).2,
        cancelInPlace_handoffs (List.mem_filter.mp hr').2]
      exact hn seat seat' hs hs' hu
    · refine List.pairwise_of_forall_mem_list fun r hr r' hr' seat seat' hs hs' _ => ?_
      rw [cancelRunnable_seat?] at hs hs'
      exact ⟨fun _ hnew => absurd hnew (hhastened r' hr' seat' hs').2.1,
        fun hnew => absurd hnew (hhastened r hr seat hs).2.1⟩
    · -- A hastened task overtakes only those behind which it did not stand before.
      intro r' hr' x' hx' seat seat' hs hs' hu
      obtain ⟨x, hx, rfl⟩ := List.mem_map.mp hx'
      obtain ⟨r, hr, rfl⟩ := List.mem_map.mp hr'
      rw [cancelRunnable_seat?] at hs'
      rw [cancelInPlace_seat?] at hs
      obtain ⟨hxq, hold, hz, hnz⟩ := hhastened x hx seat' hs'
      refine ⟨fun _ hnew => absurd hnew hold, fun hnew _ => ?_⟩
      have hle := h.le_of_mem hxq (List.mem_filter.mp hr).1 hs' hs hu.symm hold hnew
      rw [hz, cancelInPlace_handoffs (List.mem_filter.mp hr).2]
      omega

end Room

end PerlSymbols
