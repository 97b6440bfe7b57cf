import PerlSymbols.Proofs.Waiting.Overtaking
import PerlSymbols.Proofs.Waiting.Runs

/-!
# The books when nobody can run

When no task can run, the index has a count and a signal for a URI exactly while someone sleeps
for it. In particular it keeps nothing when nobody sleeps.
-/

namespace PerlSymbols.Room

variable {τ : Type}

/-- The books are kept, every signal has an owner, and nobody is overtaken. -/
structure Orderly (room : Room τ) : Prop where
  kept : room.Kept
  owned : ∀ uri signal, room.index.ready.get? uri = some signal → ⟨uri, signal⟩ ∈ room.seats
  inOrder : InOrder room.index room.queue

theorem Orderly.wakeWhere {room : Room τ} (h : room.Orderly) (which : Blocked τ → Bool)
    {wake : Ticket τ → Wake τ} {count : Nat} (hw : ∀ ticket, (wake ticket).ticket? = some ticket)
    (hnew : ∀ ticket ticket', wake ticket ≠ .published ticket')
    (hcount : handoffs.published ≤ count) : (room.wakeWhere which wake count).Orderly where
  kept := h.kept.wakeWhere which count hw
  owned uri signal hr := (room.wakeWhere_seats which count hw).mem_iff.mpr (h.owned uri signal hr)
  inOrder := by
    apply h.inOrder.append
    · intro r hr ticket
      obtain ⟨b, -, rfl⟩ := List.mem_map.mp hr
      exact hnew _ _
    · intro r hr seat hs
      obtain ⟨b, hb, rfl⟩ := List.mem_map.mp hr
      have hseat : seat = b.seat := by
        simpa [Runnable.seat?, hw, Blocked.seat] using hs.symm
      exact ⟨hseat ▸ h.kept.awaited b (List.mem_filter.mp hb).1, hcount⟩

theorem Orderly.publish {room : Room τ} (h : room.Orderly) (request : Option String)
    (doc : Document) : (room.publish request doc).Orderly where
  kept := h.kept.publish request doc
  owned uri signal hr := by
    have hold := (Index.ready_of_publish hr).2
    refine (wakeWhere_seats _ _ _ fun _ => rfl).mem_iff.mpr ?_
    show _ ∈ ({ room with queue := room.queue.map _ } : Room τ).seats
    rw [seats_map_queue room _ (shorten_seat? _)]
    exact h.owned uri signal hold
  inOrder := by
    have hseats : ∀ r ∈ room.queue, ∀ seat, r.seat? = some seat → seat ∈ room.seats :=
      fun r hr seat hs => mem_seats_of_queue hr hs
    have hnone : (room.index.publish doc).1.ready.get? doc.uri = none := by
      rw [Index.publish_ready, if_pos rfl]
    apply (h.inOrder.shorten h.kept.books hseats doc).append_given hnone
    intro r hr
    obtain ⟨b, hb, rfl⟩ := List.mem_map.mp hr
    obtain ⟨hb, hsignal⟩ := List.mem_filter.mp hb
    exact ⟨h.kept.uri_of_signal hb hsignal, Nat.le_refl _⟩

theorem Orderly.discard {room : Room τ} (h : room.Orderly) (request : Option String)
    (uri : String) : (room.discard request uri).Orderly := by
  have hkept := h.kept.discard request uri
  unfold Room.discard at hkept ⊢
  split
  · next hc =>
    rw [if_pos hc] at hkept
    exact ⟨hkept, h.owned, h.inOrder.congr fun _ _ _ _ => Iff.rfl⟩
  · exact h

theorem Orderly.start {room : Room τ} (h : room.Orderly) (task : Task τ) :
    (room.start task).Orderly where
  kept := h.kept.start task
  owned uri signal hr := by
    rcases List.mem_append.mp (h.owned uri signal hr) with hs | hs
    · refine List.mem_append_left _ ?_
      rw [Room.start, List.filterMap_append]
      exact List.mem_append_left _ hs
    · exact List.mem_append_right _ hs
  inOrder := by
    apply h.inOrder.append
    · intro r hr ticket
      rw [List.mem_singleton.mp hr]
      simp
    · intro r hr seat hs
      rw [List.mem_singleton.mp hr] at hs
      cases hs

theorem Orderly.cancel {room : Room τ} (h : room.Orderly) (id : String) :
    (room.cancel id).Orderly := by
  have hqueue : ({ room with queue := cancelQueue id room.queue } : Room τ).Orderly := by
    have hseats : ({ room with queue := cancelQueue id room.queue } : Room τ).seats.Perm room.seats :=
      (cancelQueue_seats id room.queue).append_right _
    exact ⟨⟨h.kept.books.perm hseats.symm, h.kept.awaited⟩,
      fun uri signal hr => hseats.mem_iff.mpr (h.owned uri signal hr), h.inOrder.cancel id⟩
  exact hqueue.wakeWhere _ (fun _ => rfl) (by simp) (by decide)

/-! ## Turns -/

/-- A waiter leaves, the first of the queue. If its signal is kept, whoever else waits at its URI
has the same signal: nobody with an old one is behind it. -/
theorem Orderly.leave {room : Room τ} {task : Task τ} {wake : Wake τ} {ticket : Ticket τ}
    (h : ({ room with queue := ⟨task, wake, 0⟩ :: room.queue } : Room τ).Orderly)
    (hw : wake.ticket? = some ticket) : (room.leave task ticket).Orderly := by
  have hhead : Runnable.seat? ⟨task, wake, 0⟩ = some ⟨task.uri, ticket.signal⟩ := by
    simp [Runnable.seat?, hw]
  have hseats : ({ room with queue := ⟨task, wake, 0⟩ :: room.queue } : Room τ).seats =
      ⟨task.uri, ticket.signal⟩ :: room.seats := by
    simp [seats, hhead]
  have hbooks : room.index.Keeps (⟨task.uri, ticket.signal⟩ :: room.seats) :=
    hseats ▸ h.kept.books
  have howned := h.owned
  rw [hseats] at howned
  constructor
  case kept => exact Kept.leave hbooks h.kept.awaited
  case owned =>
    intro uri signal hr
    have hready := Index.ready_of_leave hr
    rcases List.mem_cons.mp (howned uri signal hready) with he | hs
    · cases he
      obtain ⟨seat, hs, hu⟩ := hbooks.exists_mem_of_leave hr
      have hcurrent : room.index.Current seat := by
        rcases List.mem_append.mp hs with hq | hb
        · obtain ⟨r, hr, hseat⟩ := List.mem_filterMap.mp hq
          by_contra hold
          have hn := (List.pairwise_cons.mp h.inOrder.order).1 r hr
          exact absurd ((hn _ _ hhead hseat hu.symm).2 hready hold) (Nat.not_lt_zero _)
        · obtain ⟨b, hb', rfl⟩ := List.mem_map.mp hb
          exact h.kept.awaited b hb'
      have he : seat.signal = ticket.signal := by
        rw [Index.Current, hu, hready] at hcurrent
        exact (Option.some.inj hcurrent).symm
      obtain ⟨uri, signal⟩ := seat
      cases hu
      cases he
      exact hs
    · exact hs
  case inOrder =>
    apply h.inOrder.tail.congr
    intro r hr seat hs
    exact hbooks.current_leave (mem_seats_of_queue hr hs)

theorem Orderly.congr {room room' : Room τ} (h : room.Orderly) (hi : room'.index = room.index)
    (hq : room'.queue = room.queue) (hb : room'.blocked = room.blocked) : room'.Orderly := by
  have hseats : room'.seats = room.seats := by rw [seats, seats, hq, hb]
  obtain ⟨⟨hbooks, hawaited⟩, howned, horder⟩ := h
  rw [← hi, ← hseats] at hbooks howned
  rw [← hi, ← hb] at hawaited
  rw [← hi, ← hq] at horder
  exact ⟨⟨hbooks, hawaited⟩, howned, horder⟩

/-- A newcomer owns the signal that it gets. -/
theorem Orderly.owned_enter {room : Room τ} (h : room.Orderly) {uri uri' : String} {signal : Nat}
    (hr : (room.index.enter uri).1.ready.get? uri' = some signal) :
    ⟨uri', signal⟩ ∈ (⟨uri, (room.index.enter uri).2⟩ : Seat) :: room.seats := by
  rw [Index.enter_ready] at hr
  split at hr
  · next he =>
    cases he
    cases hr
    exact List.mem_cons_self
  · exact List.mem_cons_of_mem _ (h.owned uri' signal hr)

variable [Clock τ]

/-- A task has its turn, the first of the queue. -/
theorem Orderly.resumed {room room' : Room τ} {task : Task τ} {wake : Wake τ}
    (hr : Resumed room task wake room')
    (h : ({ room with queue := ⟨task, wake, 0⟩ :: room.queue } : Room τ).Orderly) :
    room'.Orderly := by
  have hkept : room'.Kept := by
    refine Kept.resumed (r := ⟨task, wake, 0⟩) hr (h.kept.books.perm ?_) h.kept.awaited
    exact seats_perm_of_queue (show _ = [] ++ _ :: _ from rfl)
  -- Whoever begins holds no seat yet.
  have hrest : wake.ticket? = none → room.Orderly := by
    intro hw
    have hseats : ({ room with queue := ⟨task, wake, 0⟩ :: room.queue } : Room τ).seats =
        room.seats := by
      simp [seats, Runnable.seat?, hw]
    exact ⟨⟨hseats ▸ h.kept.books, h.kept.awaited⟩, hseats ▸ h.owned, h.inOrder.tail⟩
  -- Those who wait already keep their places when a newcomer gets a signal.
  have hplaces : wake.ticket? = none → InOrder (room.index.enter task.uri).1 room.queue := by
    intro hw
    apply h.inOrder.tail.congr
    intro r hr seat hs
    exact (hrest hw).kept.books.current_enter task.uri (mem_seats_of_queue hr hs)
  cases hr with
  | left records hw => exact (h.leave hw).congr rfl rfl rfl
  | abandoned => exact (hrest rfl).congr rfl rfl rfl
  | served requests request hdoc => exact (hrest rfl).congr rfl rfl rfl
  | refused requests request hdoc htimeout => exact (hrest rfl).congr rfl rfl rfl
  | hurried requests request hdoc htimeout hlow hhigh hover =>
    refine ⟨hkept, ?_, ?_⟩
    · intro uri signal hready
      exact (seats_append_queue room rfl).mem_iff.mpr ((hrest rfl).owned_enter hready)
    · apply (hplaces rfl).append
      · intro r hr ticket
        rw [List.mem_singleton.mp hr]
        simp
      · intro r hr seat hs
        rw [List.mem_singleton.mp hr] at hs ⊢
        cases hs
        refine ⟨?_, hlow⟩
        rw [Index.Current, Index.enter_ready, if_pos rfl]
  | asleep requests request hdoc htimeout hpositive hahead =>
    refine ⟨hkept, ?_, hplaces rfl⟩
    intro uri signal hready
    exact (seats_append_blocked room (by rfl)).mem_iff.mpr ((hrest rfl).owned_enter hready)

theorem Orderly.turn {room : Room τ} (h : room.Orderly) : room.turn.Orderly := by
  rcases room.turn_cases with
    ⟨-, he⟩ | ⟨task, wake, n, rest, hq, he⟩ | ⟨task, wake, rest, room', hq, he, hr⟩
  · rw [he]
    exact h
  · have hseats := handOn_seats n (show room.queue = [] ++ _ :: _ from hq)
    rw [he]
    refine ⟨⟨h.kept.books.perm hseats.symm, h.kept.awaited⟩, ?_, ?_⟩
    · intro uri signal hr
      exact hseats.mem_iff.mpr (h.owned uri signal hr)
    · exact (hq ▸ h.inOrder).handOn
  · rw [he]
    refine Orderly.resumed hr ?_
    rw [← hq]
    exact h

/-! ## Runs -/

theorem Orderly.settle {room : Room τ} (h : room.Orderly) : room.settle.Orderly :=
  turns_keep (fun _ hr => Orderly.turn hr) _ _ h

theorem Orderly.moveTo {room : Room τ} (h : room.Orderly) (instant : τ) :
    (room.moveTo instant).Orderly := by
  have hmoved : ({ room with now := instant } : Room τ).Orderly := h.congr rfl rfl rfl
  exact hmoved.wakeWhere _ (fun _ => rfl) (by simp) (by decide)

end PerlSymbols.Room
