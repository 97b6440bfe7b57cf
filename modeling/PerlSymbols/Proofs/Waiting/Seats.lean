import PerlSymbols.Proofs.Waiting.Books
import PerlSymbols.Proofs.Waiting.Crew

/-!
# The seats of a room

A task holds a seat from the moment it begins to wait until it leaves, also while it is woken and
has not had its turn. Every operation on a room keeps the books of its index.
-/

namespace PerlSymbols

variable {τ : Type}

def Runnable.seat? (r : Runnable τ) : Option Seat :=
  r.wake.ticket?.map fun ticket => ⟨r.task.uri, ticket.signal⟩

def Blocked.seat (b : Blocked τ) : Seat :=
  ⟨b.task.uri, b.ticket.signal⟩

namespace Room

def seats (room : Room τ) : List Seat :=
  room.queue.filterMap Runnable.seat? ++ room.blocked.map Blocked.seat

/-- The seats are those of the members of the crew that have a ticket. -/
theorem seats_eq (room : Room τ) : room.seats = room.crew.filterMap fun member =>
    member.2.map fun ticket => ⟨member.1.uri, ticket.signal⟩ := by
  simp only [crew, List.filterMap_append, List.filterMap_map, Function.comp_def, Option.map_some]
  rw [List.filterMap_eq_map']
  rfl

theorem mem_seats_of_blocked {room : Room τ} {b : Blocked τ} (h : b ∈ room.blocked) :
    b.seat ∈ room.seats :=
  List.mem_append_right _ (List.mem_map_of_mem h)

theorem mem_seats_of_queue {room : Room τ} {r : Runnable τ} {seat : Seat} (h : r ∈ room.queue)
    (hs : r.seat? = some seat) : seat ∈ room.seats :=
  List.mem_append_left _ (List.mem_filterMap.mpr ⟨r, h, hs⟩)

theorem seats_append_queue (room : Room τ) {r : Runnable τ} {seat : Seat}
    (h : r.seat? = some seat) :
    ({ room with queue := room.queue ++ [r] } : Room τ).seats.Perm (seat :: room.seats) := by
  simp only [seats, List.filterMap_append, List.filterMap_cons, List.filterMap_nil, h,
    List.append_assoc, List.singleton_append]
  exact List.perm_middle

theorem seats_append_blocked (room : Room τ) {b : Blocked τ} {seat : Seat} (h : b.seat = seat) :
    ({ room with blocked := room.blocked ++ [b] } : Room τ).seats.Perm (seat :: room.seats) := by
  simp only [seats, List.map_append, List.map_cons, List.map_nil, h]
  rw [← List.append_assoc]
  exact List.perm_append_singleton _ _

/-- The books are kept, and whoever sleeps waits for the signal of its URI. -/
structure Kept (room : Room τ) : Prop where
  books : room.index.Keeps room.seats
  awaited : ∀ b ∈ room.blocked, room.index.Current b.seat

/-! ## Being woken -/

theorem wakeWhere_seats (room : Room τ) (which : Blocked τ → Bool) {wake : Ticket τ → Wake τ}
    (count : Nat) (hw : ∀ ticket, (wake ticket).ticket? = some ticket) :
    (room.wakeWhere which wake count).seats.Perm room.seats := by
  rw [seats_eq, seats_eq]
  exact (room.wakeWhere_crew which count hw).filterMap _

theorem Kept.wakeWhere {room : Room τ} (h : room.Kept) (which : Blocked τ → Bool)
    {wake : Ticket τ → Wake τ} (count : Nat) (hw : ∀ ticket, (wake ticket).ticket? = some ticket) :
    (room.wakeWhere which wake count).Kept where
  books := h.books.perm (room.wakeWhere_seats which count hw).symm
  awaited b hb := h.awaited b (List.mem_filter.mp hb).1

/-- The seats of a queue depend on its tasks and their wake-ups, not on their hand-offs. -/
theorem seats_map_queue (room : Room τ) (f : Runnable τ → Runnable τ)
    (hf : ∀ r, (f r).seat? = r.seat?) :
    ({ room with queue := room.queue.map f } : Room τ).seats = room.seats := by
  simp only [seats, List.filterMap_map, Function.comp_def, hf]

theorem shorten_seat? (signal : Option Nat) (r : Runnable τ) :
    (shorten signal r).seat? = r.seat? := by
  unfold shorten
  split
  · split <;> rfl
  · rfl

theorem Kept.publish {room : Room τ} (h : room.Kept) (request : Option String) (doc : Document) :
    (room.publish request doc).Kept := by
  have hbooks : (room.index.publish doc).1.Keeps
      ({ room with queue := room.queue.map (shorten (room.index.ready.get? doc.uri)) } :
        Room τ).seats := by
    rw [seats_map_queue room _ (shorten_seat? _)]
    exact h.books.publish doc
  constructor
  case books => exact hbooks.perm (wakeWhere_seats _ _ _ fun _ => rfl).symm
  case awaited =>
    intro b hb
    have hmem := List.mem_filter.mp hb
    have hready := h.awaited b hmem.1
    simp only [Index.Current, Blocked.seat] at hready ⊢
    show (room.index.publish doc).1.ready.get? b.task.uri = some b.ticket.signal
    rw [Index.publish_ready, if_neg]
    · exact hready
    · -- Whoever waits for this document was woken by its signal.
      intro he
      rw [← he] at hready
      simp [hready] at hmem

/-- Publishing wakes everyone who sleeps for the document. -/
theorem Kept.publish_wakes {room : Room τ} (h : room.Kept) (request : Option String)
    (doc : Document) {b : Blocked τ} (hb : b ∈ room.blocked) (hu : b.task.uri = doc.uri) :
    ⟨b.task, .published b.ticket, handoffs.published⟩ ∈ (room.publish request doc).queue := by
  have hready : room.index.ready.get? doc.uri = some b.ticket.signal := hu ▸ h.awaited b hb
  refine List.mem_append_right _ (List.mem_map.mpr ⟨b, List.mem_filter.mpr ⟨hb, ?_⟩, rfl⟩)
  simp [hready]

/-- Nobody sleeps for a document that is indexed. -/
theorem Kept.ne_of_indexed {room : Room τ} (h : room.Kept) {uri : String}
    (hi : (room.index.get? uri).isSome) {b : Blocked τ} (hb : b ∈ room.blocked) :
    b.task.uri ≠ uri := by
  rintro rfl
  have hready := h.awaited b hb
  rw [Index.Current, Blocked.seat, h.books.silent _ hi] at hready
  cases hready

/-- Whoever sleeps on waits for another document. -/
theorem Kept.ne_of_publish {room : Room τ} (h : room.Kept) (request : Option String)
    (doc : Document) {b : Blocked τ} (hb : b ∈ (room.publish request doc).blocked) :
    b.task.uri ≠ doc.uri := by
  refine (h.publish request doc).ne_of_indexed ?_ hb
  show ((room.index.publish doc).1.get? doc.uri).isSome
  rw [Index.publish_get?, if_pos rfl]
  rfl

/-- Whoever is woken by a signal waits for the document it belongs to. -/
theorem Kept.uri_of_signal {room : Room τ} (h : room.Kept) {b : Blocked τ} (hb : b ∈ room.blocked)
    {uri : String} (hs : (some b.ticket.signal == room.index.ready.get? uri) = true) :
    b.task.uri = uri := by
  apply h.books.own b.seat (mem_seats_of_blocked hb) uri
  have he : some b.ticket.signal = room.index.ready.get? uri := by simpa using hs
  exact he.symm

theorem Kept.discard {room : Room τ} (h : room.Kept) (request : Option String) (uri : String) :
    (room.discard request uri).Kept := by
  unfold Room.discard
  split
  · exact ⟨h.books.discard uri, h.awaited⟩
  · exact h

theorem Kept.start {room : Room τ} (h : room.Kept) (task : Task τ) : (room.start task).Kept := by
  have hnone : [(⟨task, .begin, 0⟩ : Runnable τ)].filterMap Runnable.seat? = [] := rfl
  have hseats : (room.start task).seats = room.seats := by
    simp only [seats, Room.start, List.filterMap_append, hnone, List.append_nil]
  exact ⟨hseats ▸ h.books, h.awaited⟩

theorem cancelRunnable_seat? (r : Runnable τ) : (cancelRunnable r).seat? = r.seat? := by
  obtain ⟨task, wake, n⟩ := r
  cases wake <;> rfl

theorem cancelInPlace_seat? (id : String) (r : Runnable τ) :
    (cancelInPlace id r).seat? = r.seat? := by
  unfold cancelInPlace
  split
  · exact cancelRunnable_seat? r
  · rfl

theorem cancelQueue_seats (id : String) (queue : List (Runnable τ)) :
    ((cancelQueue id queue).filterMap Runnable.seat?).Perm (queue.filterMap Runnable.seat?) := by
  simp only [cancelQueue, List.filterMap_append, List.filterMap_map, Function.comp_def,
    cancelInPlace_seat?, cancelRunnable_seat?]
  rw [← List.filterMap_append]
  apply List.Perm.filterMap
  exact List.perm_append_comm.trans (List.filter_append_perm _ _)

theorem Kept.cancel {room : Room τ} (h : room.Kept) (id : String) : (room.cancel id).Kept := by
  apply Kept.wakeWhere _ _ _ fun _ => rfl
  exact ⟨h.books.perm ((cancelQueue_seats id room.queue).append_right _).symm, h.awaited⟩

/-! ## Having a turn -/

/-- A woken waiter gives its seat up, and nobody else's signal goes with it. -/
theorem Kept.leave {room : Room τ} {task : Task τ} {ticket : Ticket τ}
    (hbooks : room.index.Keeps (⟨task.uri, ticket.signal⟩ :: room.seats))
    (hawaited : ∀ b ∈ room.blocked, room.index.Current b.seat) : (room.leave task ticket).Kept := by
  refine ⟨hbooks.leave, ?_⟩
  intro b hb
  exact (hbooks.current_leave (mem_seats_of_blocked hb)).mpr (hawaited b hb)

/-- A task has its turn, in a room from whose queue it was taken. -/
theorem Kept.resumed [Clock τ] {room room' : Room τ} {r : Runnable τ}
    (hr : Resumed room r.task r.wake room')
    (hbooks : room.index.Keeps (r.seat?.toList ++ room.seats))
    (hawaited : ∀ b ∈ room.blocked, room.index.Current b.seat) : room'.Kept := by
  obtain ⟨task, wake, n⟩ := r
  have hsleep : ∀ b ∈ room.blocked, (room.index.enter task.uri).1.Current b.seat :=
    fun b hb => Index.ready_enter_of_some (hawaited b hb)
  cases hr with
  | left records hw =>
    have hleft := Kept.leave (by simpa [Runnable.seat?, hw] using hbooks) hawaited
    exact ⟨hleft.books, hleft.awaited⟩
  | abandoned => exact ⟨hbooks, hawaited⟩
  | served requests request hdoc => exact ⟨hbooks, hawaited⟩
  | refused requests request hdoc htimeout => exact ⟨hbooks, hawaited⟩
  | hurried requests request hdoc htimeout hlow hhigh hover =>
    exact ⟨(hbooks.enter hdoc).perm (seats_append_queue room rfl).symm, hsleep⟩
  | asleep requests request hdoc htimeout hpositive hahead =>
    refine ⟨(hbooks.enter hdoc).perm (seats_append_blocked room (by rfl)).symm, ?_⟩
    intro b hb
    rcases List.mem_append.mp hb with hb | hb
    · exact hsleep b hb
    · rw [List.mem_singleton.mp hb]
      simp [Index.Current, Blocked.seat, Index.enter_ready]

end Room

end PerlSymbols
