import PerlSymbols.Index
import Mathlib.Data.List.Count
import Mathlib.Tactic.Push

/-!
# The books of the index

A waiter that has come and has not left holds a seat. The index keeps its books if the count of
every URI is the number of seats there, signals are never given out twice, and no document is
indexed under a URI with a signal.
-/

namespace PerlSymbols

/-- The place of a waiter: the URI it waits for, and the signal that is to wake it. -/
structure Seat where
  uri : String
  signal : Nat
  deriving DecidableEq

/-- How many wait for a URI. -/
def seatsAt (uri : String) (seats : List Seat) : Nat :=
  seats.countP fun seat => seat.uri = uri

theorem seatsAt_cons (uri : String) (seat : Seat) (seats : List Seat) :
    seatsAt uri (seat :: seats) = seatsAt uri seats + if seat.uri = uri then 1 else 0 := by
  simp [seatsAt, List.countP_cons]

theorem seatsAt_eq_zero {uri : String} {seats : List Seat} :
    seatsAt uri seats = 0 ↔ ∀ seat ∈ seats, seat.uri ≠ uri := by
  simp [seatsAt, List.countP_eq_zero]

theorem seatsAt_perm {seats seats' : List Seat} (h : seats.Perm seats') (uri : String) :
    seatsAt uri seats = seatsAt uri seats' :=
  h.countP_eq _

/-- The note of a number of waiters; nobody leaves no note. -/
def note (n : Nat) : Option Nat :=
  if n = 0 then none else some n

namespace Index

/-- A publication would give the signal of the seat. -/
def Current (index : Index) (seat : Seat) : Prop :=
  index.ready.get? seat.uri = some seat.signal

structure Keeps (index : Index) (seats : List Seat) : Prop where
  counted : ∀ uri, index.waiting.get? uri = note (seatsAt uri seats)
  issued : ∀ seat ∈ seats, seat.signal < index.fresh
  readyIssued : ∀ uri signal, index.ready.get? uri = some signal → signal < index.fresh
  /-- The signal of a seat is never the one of another URI. -/
  own : ∀ seat ∈ seats, ∀ uri, index.ready.get? uri = some seat.signal → seat.uri = uri
  /-- Two URIs never share a signal. -/
  apart : ∀ uri uri' signal, index.ready.get? uri = some signal →
    index.ready.get? uri' = some signal → uri = uri'
  /-- Nobody is to be woken for a document that is there. -/
  silent : ∀ uri, (index.get? uri).isSome → index.ready.get? uri = none

theorem Keeps.perm {index : Index} {seats seats' : List Seat} (h : index.Keeps seats)
    (hp : seats.Perm seats') : index.Keeps seats' where
  counted uri := by rw [h.counted, seatsAt_perm hp]
  issued seat hs := h.issued seat (hp.mem_iff.mpr hs)
  readyIssued := h.readyIssued
  own seat hs := h.own seat (hp.mem_iff.mpr hs)
  apart := h.apart
  silent := h.silent

theorem Keeps.waitingFor_eq {index : Index} {seats : List Seat} (h : index.Keeps seats)
    (uri : String) : index.waitingFor uri = seatsAt uri seats := by
  rw [waitingFor, h.counted, note]
  split
  · next hn => rw [hn]; rfl
  · rfl

theorem keeps_ofDocuments (docs : List Document) : (ofDocuments docs).Keeps [] where
  counted _ := rfl
  issued _ hs := by simp at hs
  readyIssued _ _ h := by simp [ofDocuments, Entries.get?] at h
  own _ hs := by simp at hs
  apart _ _ _ h := by simp [ofDocuments, Entries.get?] at h
  silent _ _ := rfl

/-! ## Publishing and discarding -/

theorem publish_ready (index : Index) (doc : Document) (uri : String) :
    (index.publish doc).1.ready.get? uri =
      if doc.uri = uri then none else index.ready.get? uri :=
  Entries.get?_erase ..

theorem publish_get? (index : Index) (doc : Document) (uri : String) :
    (index.publish doc).1.get? uri = if doc.uri = uri then some doc else index.get? uri :=
  Entries.get?_put ..

theorem discard_get? (index : Index) (uri uri' : String) :
    (index.discard uri).get? uri' = if uri = uri' then none else index.get? uri' :=
  Entries.get?_erase ..

theorem ready_of_publish {index : Index} {doc : Document} {uri : String} {signal : Nat}
    (h : (index.publish doc).1.ready.get? uri = some signal) :
    doc.uri ≠ uri ∧ index.ready.get? uri = some signal := by
  rw [publish_ready] at h
  split at h <;> simp_all

theorem Keeps.publish {index : Index} {seats : List Seat} (h : index.Keeps seats)
    (doc : Document) : (index.publish doc).1.Keeps seats where
  counted := h.counted
  issued := h.issued
  readyIssued uri signal hr := h.readyIssued uri signal (ready_of_publish hr).2
  own seat hs uri hr := h.own seat hs uri (ready_of_publish hr).2
  apart uri uri' signal hr hr' :=
    h.apart uri uri' signal (ready_of_publish hr).2 (ready_of_publish hr').2
  silent uri hs := by
    rw [publish_ready]
    split
    · rfl
    · next hne =>
      rw [publish_get?, if_neg hne] at hs
      exact h.silent uri hs

theorem Keeps.discard {index : Index} {seats : List Seat} (h : index.Keeps seats)
    (uri : String) : (index.discard uri).Keeps seats where
  counted := h.counted
  issued := h.issued
  readyIssued := h.readyIssued
  own := h.own
  apart := h.apart
  silent uri' hs := by
    rw [discard_get?] at hs
    split at hs
    · simp at hs
    · exact h.silent uri' hs

/-! ## Coming -/

theorem enter_docs (index : Index) (uri : String) : (index.enter uri).1.docs = index.docs := by
  unfold enter
  split <;> rfl

theorem enter_get? (index : Index) (uri uri' : String) :
    (index.enter uri).1.get? uri' = index.get? uri' := by
  rw [get?, enter_docs, get?]

theorem enter_waiting (index : Index) (uri : String) :
    (index.enter uri).1.waiting = index.waiting.put uri (index.waitingFor uri + 1) := by
  unfold enter
  split <;> rfl

theorem enter_ready (index : Index) (uri uri' : String) :
    (index.enter uri).1.ready.get? uri' =
      if uri = uri' then some (index.enter uri).2 else index.ready.get? uri' := by
  unfold enter
  split
  · next signal hs =>
    split
    · next he => rw [← he]; exact hs
    · rfl
  · exact Entries.get?_put ..

/-- A waiter shares the signal of its URI or gets one that was never given out. -/
theorem enter_cases (index : Index) (uri : String) :
    (index.ready.get? uri = some (index.enter uri).2 ∧
      (index.enter uri).1.fresh = index.fresh) ∨
    (index.ready.get? uri = none ∧ (index.enter uri).2 = index.fresh ∧
      (index.enter uri).1.fresh = index.fresh + 1) := by
  unfold enter
  split
  · next signal hs => exact Or.inl ⟨hs, rfl⟩
  · next hn => exact Or.inr ⟨hn, rfl, rfl⟩

/-- Signals that were there stay where they are. -/
theorem ready_enter_of_some {index : Index} {uri uri' : String} {signal : Nat}
    (h : index.ready.get? uri' = some signal) :
    (index.enter uri).1.ready.get? uri' = some signal := by
  rw [enter_ready]
  split
  · next he =>
    rcases index.enter_cases uri with ⟨hs, -⟩ | ⟨hn, -⟩
    · rw [← hs, he, h]
    · rw [he, h] at hn
      cases hn
  · exact h

theorem Keeps.enter {index : Index} {seats : List Seat} (h : index.Keeps seats) {uri : String}
    (hn : index.get? uri = none) :
    (index.enter uri).1.Keeps (⟨uri, (index.enter uri).2⟩ :: seats) := by
  have hfresh : index.fresh ≤ (index.enter uri).1.fresh ∧
      (index.enter uri).2 < (index.enter uri).1.fresh := by
    rcases index.enter_cases uri with ⟨hs, hf⟩ | ⟨-, hs, hf⟩
    · exact ⟨by omega, by rw [hf]; exact h.readyIssued uri _ hs⟩
    · omega
  -- A signal that another URI or seat has is not the one given out now.
  have hother : ∀ uri', uri ≠ uri' → index.ready.get? uri' ≠ some (index.enter uri).2 := by
    intro uri' hne hr
    rcases index.enter_cases uri with ⟨hs, -⟩ | ⟨-, hs, -⟩
    · exact hne (h.apart uri uri' _ hs hr)
    · have := h.readyIssued uri' _ hr
      omega
  have hown : ∀ seat ∈ seats, seat.signal = (index.enter uri).2 → seat.uri = uri := by
    intro seat hs he
    rcases index.enter_cases uri with ⟨hr, -⟩ | ⟨-, hr, -⟩
    · exact h.own seat hs uri (by rw [hr, he])
    · have := h.issued seat hs
      omega
  constructor
  case counted =>
    intro uri'
    rw [enter_waiting, Entries.get?_put, seatsAt_cons, h.waitingFor_eq]
    by_cases he : uri = uri'
    · subst he
      simp [note]
    · simp [he, h.counted]
  case issued =>
    intro seat hs
    rcases List.mem_cons.mp hs with rfl | hs
    · exact hfresh.2
    · exact Nat.lt_of_lt_of_le (h.issued seat hs) hfresh.1
  case readyIssued =>
    intro uri' signal hr
    rw [enter_ready] at hr
    split at hr
    · cases hr
      exact hfresh.2
    · exact Nat.lt_of_lt_of_le (h.readyIssued uri' signal hr) hfresh.1
  case own =>
    intro seat hs uri' hr
    rw [enter_ready] at hr
    rcases List.mem_cons.mp hs with rfl | hs
    · split at hr
      · assumption
      · next hne => exact absurd hr (hother uri' hne)
    · split at hr
      · next he => rw [← he]; exact hown seat hs (Option.some.inj hr).symm
      · exact h.own seat hs uri' hr
  case apart =>
    intro uri₁ uri₂ signal h₁ h₂
    rw [enter_ready] at h₁ h₂
    split at h₁ <;> split at h₂
    · next he he' => rw [← he, ← he']
    · next hne => exact absurd (h₂.trans h₁.symm) (hother uri₂ hne)
    · next hne _ => exact absurd (h₁.trans h₂.symm) (hother uri₁ hne)
    · exact h.apart uri₁ uri₂ signal h₁ h₂
  case silent =>
    intro uri' hs
    rw [enter_get?] at hs
    have hne : uri ≠ uri' := by
      rintro rfl
      rw [hn] at hs
      cases hs
    rw [enter_ready, if_neg hne]
    exact h.silent uri' hs

/-- Nobody else's signal becomes or stops being the one of its URI. -/
theorem Keeps.current_enter {index : Index} {seats : List Seat} (h : index.Keeps seats)
    (uri : String) {seat : Seat} (hs : seat ∈ seats) :
    (index.enter uri).1.Current seat ↔ index.Current seat := by
  rw [Current, enter_ready]
  split
  · next he =>
    rw [Current, ← he]
    rcases index.enter_cases uri with ⟨hr, -⟩ | ⟨hr, hf, -⟩
    · rw [hr]
    · have := h.issued seat hs
      rw [hr, hf]
      simp only [Option.some.injEq, reduceCtorEq, iff_false]
      omega
  · rfl

/-! ## Leaving -/

theorem leave_last {index : Index} {uri : String} (signal : Nat)
    (h : index.waitingFor uri - 1 = 0) :
    index.leave uri signal = { index with
      waiting := index.waiting.erase uri
      ready := if index.ready.get? uri = some signal then index.ready.erase uri else index.ready } :=
  if_pos h

theorem leave_others {index : Index} {uri : String} (signal : Nat)
    (h : index.waitingFor uri - 1 ≠ 0) :
    index.leave uri signal =
      { index with waiting := index.waiting.put uri (index.waitingFor uri - 1) } :=
  if_neg h

theorem leave_docs (index : Index) (uri : String) (signal : Nat) :
    (index.leave uri signal).docs = index.docs := by
  by_cases h : index.waitingFor uri - 1 = 0
  · rw [leave_last signal h]
  · rw [leave_others signal h]

theorem leave_get? (index : Index) (uri uri' : String) (signal : Nat) :
    (index.leave uri signal).get? uri' = index.get? uri' := by
  rw [get?, leave_docs, get?]

theorem leave_fresh (index : Index) (uri : String) (signal : Nat) :
    (index.leave uri signal).fresh = index.fresh := by
  by_cases h : index.waitingFor uri - 1 = 0
  · rw [leave_last signal h]
  · rw [leave_others signal h]

theorem leave_ready (index : Index) (uri uri' : String) (signal : Nat) :
    (index.leave uri signal).ready.get? uri' =
      if index.waitingFor uri - 1 = 0 ∧ index.ready.get? uri = some signal ∧ uri = uri' then none
      else index.ready.get? uri' := by
  by_cases hz : index.waitingFor uri - 1 = 0
  · rw [leave_last signal hz]
    by_cases hr : index.ready.get? uri = some signal
    · simp [hz, hr, Entries.get?_erase]
    · simp [hr]
  · rw [leave_others signal hz, if_neg (fun h => hz h.1)]

theorem ready_of_leave {index : Index} {uri uri' : String} {signal signal' : Nat}
    (h : (index.leave uri signal).ready.get? uri' = some signal') :
    index.ready.get? uri' = some signal' := by
  rw [leave_ready] at h
  split at h
  · cases h
  · exact h

/-- While someone else waits for a URI, its signal stays. -/
theorem Keeps.leave_ready_of_mem {index : Index} {seat seat' : Seat} {seats : List Seat}
    (h : index.Keeps (seat :: seats)) (hs : seat' ∈ seats) :
    (index.leave seat.uri seat.signal).ready.get? seat'.uri = index.ready.get? seat'.uri := by
  rw [leave_ready, if_neg]
  rintro ⟨hz, -, he⟩
  rw [h.waitingFor_eq, seatsAt_cons] at hz
  simp only [if_true, Nat.add_sub_cancel] at hz
  exact seatsAt_eq_zero.mp hz seat' hs he.symm

theorem Keeps.current_leave {index : Index} {seat seat' : Seat} {seats : List Seat}
    (h : index.Keeps (seat :: seats)) (hs : seat' ∈ seats) :
    (index.leave seat.uri seat.signal).Current seat' ↔ index.Current seat' := by
  rw [Current, h.leave_ready_of_mem hs, Current]

/-- A signal that is there after someone left has someone else who waits at its URI. -/
theorem Keeps.exists_mem_of_leave {index : Index} {seat : Seat} {seats : List Seat}
    (h : index.Keeps (seat :: seats))
    (hr : (index.leave seat.uri seat.signal).ready.get? seat.uri = some seat.signal) :
    ∃ seat' ∈ seats, seat'.uri = seat.uri := by
  by_contra hno
  push Not at hno
  have hz : index.waitingFor seat.uri - 1 = 0 := by
    rw [h.waitingFor_eq, seatsAt_cons, seatsAt_eq_zero.mpr hno]
    simp
  have hcurrent := ready_of_leave hr
  rw [leave_ready, if_pos ⟨hz, hcurrent, rfl⟩] at hr
  cases hr

theorem Keeps.leave {index : Index} {seat : Seat} {seats : List Seat}
    (h : index.Keeps (seat :: seats)) : (index.leave seat.uri seat.signal).Keeps seats where
  counted uri := by
    have hw := h.waitingFor_eq seat.uri
    have hu := h.counted uri
    rw [seatsAt_cons] at hw hu
    rw [if_pos rfl] at hw
    by_cases hz : index.waitingFor seat.uri - 1 = 0
    · rw [leave_last seat.signal hz, Entries.get?_erase]
      split
      · next he => rw [← he, show seatsAt seat.uri seats = 0 by omega]; rfl
      · next he => simpa [he] using hu
    · rw [leave_others seat.signal hz, Entries.get?_put]
      split
      · next he => rw [← he, note, if_neg (by omega), hw, Nat.add_sub_cancel]
      · next he => simpa [he] using hu
  issued seat' hs := by
    rw [leave_fresh]
    exact h.issued seat' (List.mem_cons_of_mem _ hs)
  readyIssued uri signal hr := by
    rw [leave_fresh]
    exact h.readyIssued uri signal (ready_of_leave hr)
  own seat' hs uri hr := h.own seat' (List.mem_cons_of_mem _ hs) uri (ready_of_leave hr)
  apart uri uri' signal hr hr' := h.apart uri uri' signal (ready_of_leave hr) (ready_of_leave hr')
  silent uri hs := by
    rw [leave_get?] at hs
    rw [leave_ready, h.silent uri hs, ite_self]

end Index

end PerlSymbols
