import PerlSymbols.Proofs.Waiting.Strategies

/-!
# Polling, act by act

A plain map is asked once, and then again after each sleep, until it answers or no retries are left.
What the map would have answered later does not matter: the first answer counts, and no lookup comes
after it. This holds as long as all numbers of seconds are in range. A whole number that has no
place among the binary numbers ends the polling with an error of its own, in some cases before the
map is asked a second time.
-/

namespace PerlSymbols.Polling

/-! ## What polling is to do -/

section Runs

variable {τ : Type} [Clock τ]

/-- Sleeping and asking again, so many times. -/
def rounds (interval : τ) : Nat → List (Act τ)
  | 0 => []
  | n + 1 => .sleep interval :: .look :: rounds interval n

/-- A lookup and so many rounds after it. -/
def runOf (interval : τ) (n : Nat) (found : Option Document) : Run τ where
  acts := .look :: rounds interval n
  lookups := n + 1
  now := instantAfter interval n
  found

/-- The lookups up to a number find nothing. -/
def NothingUpTo (answer : Nat → Option Document) (n : Nat) : Prop :=
  ∀ j, 0 < j → j ≤ n → answer j = none

inductive Polls (answer : Nat → Option Document) (uri : String) (patience : Patience τ) :
    Run τ × List Record × Except TaskError Document → Prop where
  | atOnce {doc : Document} (hfound : answer 1 = some doc) :
      Polls answer uri patience (runOf patience.interval 0 (some doc), [], .ok doc)
  | later {n : Nat} {doc : Document} (hpositive : 0 < n) (hretries : n ≤ patience.retries.toNat)
      (hbefore : NothingUpTo answer n) (hfound : answer (n + 1) = some doc) :
      Polls answer uri patience
        (runOf patience.interval n (some doc), [readyRecord uri n], .ok doc)
  | never {waited : τ} {problem : Problem}
      (hnothing : NothingUpTo answer (patience.retries.toNat + 1))
      (hwaited : Clock.times? patience.interval patience.retries = some waited)
      (hcode : problem.code = .documentTimeout)
      (hdetails : problem.details = [("uri", .text uri), ("attempts", .int patience.retries),
        ("waited_sec", Clock.toValue waited)]) :
      Polls answer uri patience
        (runOf patience.interval patience.retries.toNat none,
          [Room.exhaustedRecord uri patience waited], .error (.notIndexed problem))

/-! ## What polling does -/

variable {answer : Nat → Option Document} {interval waited : τ} {patience : Patience τ}
  {uri : String} {doc : Document} {n : Nat}

theorem NothingUpTo.succ (h : NothingUpTo answer n) (hnone : answer (n + 1) = none) :
    NothingUpTo answer (n + 1) := by
  intro j hj hle
  by_cases he : j = n + 1
  · rw [he, hnone]
  · exact h j hj (by omega)

/-- Either no lookup up to a number finds something, or there is a first one that does. -/
theorem nothingUpTo_or_first (answer : Nat → Option Document) (retries : Nat) :
    NothingUpTo answer (retries + 1) ∨
    ∃ n doc, n ≤ retries ∧ NothingUpTo answer n ∧ answer (n + 1) = some doc := by
  induction retries with
  | zero =>
    have hnothing : NothingUpTo answer 0 := fun j hj hle => absurd hj (by omega)
    cases hanswer : answer 1 with
    | none => exact Or.inl (hnothing.succ hanswer)
    | some doc => exact Or.inr ⟨0, doc, le_rfl, hnothing, hanswer⟩
  | succ retries ih =>
    rcases ih with hnothing | ⟨n, doc, hn, hfirst⟩
    · cases hanswer : answer (retries + 1 + 1) with
      | none => exact Or.inl (hnothing.succ hanswer)
      | some doc => exact Or.inr ⟨retries + 1, doc, le_rfl, hnothing, hanswer⟩
    · exact Or.inr ⟨n, doc, by omega, hfirst⟩

/-- The induction is on the number of rounds that are made, so each step takes one round off the
front of the run. The last lookup is one that answers or one after which no retries are left. -/
theorem ask_stops {retries : Nat} (asked : Nat) (now : τ) (hn : n ≤ retries)
    (hbefore : ∀ j, asked < j → j ≤ asked + n → answer j = none)
    (hlast : answer (asked + n + 1) = none → n = retries) :
    (ask answer interval retries asked now).acts = .look :: rounds interval n ∧
    (ask answer interval retries asked now).lookups = asked + n + 1 ∧
    (ask answer interval retries asked now).found = answer (asked + n + 1) := by
  induction n generalizing retries asked now with
  | zero =>
    unfold ask
    cases hanswer : answer (asked + 1) with
    | some doc => exact ⟨rfl, rfl, rfl⟩
    | none =>
      obtain rfl := hlast hanswer
      exact ⟨rfl, rfl, rfl⟩
  | succ n ih =>
    obtain ⟨retries, rfl⟩ : ∃ m, retries = m + 1 := ⟨retries - 1, by omega⟩
    have hshift : asked + (n + 1) + 1 = asked + 1 + n + 1 := by omega
    rw [hshift] at hlast ⊢
    obtain ⟨hacts, hlookups, hfound⟩ := ih (asked + 1) (sleep now interval)
      (show n ≤ retries by omega) (fun j hj hle => hbefore j (by omega) (by omega))
      (fun hnone => by have := hlast hnone; omega)
    unfold ask
    rw [hbefore (asked + 1) (by omega) (by omega)]
    refine ⟨?_, hlookups, hfound⟩
    show [Act.look, Act.sleep interval] ++ _ = _
    rw [hacts]
    rfl

theorem ask_eq_runOf {retries : Nat} (hn : n ≤ retries) (hbefore : NothingUpTo answer n)
    (hlast : answer (n + 1) = none → n = retries) :
    ask answer interval retries 0 Clock.start = runOf interval n (answer (n + 1)) := by
  have hnow := ask_now answer interval retries 0
  obtain ⟨hacts, hlookups, hfound⟩ := ask_stops 0 (instantAfter interval 0) hn
    (fun j hj hle => hbefore j hj (by omega)) (by simpa using hlast)
  rw [hlookups, Nat.zero_add, Nat.add_sub_cancel] at hnow
  rw [Nat.zero_add] at hlookups hfound
  show ask answer interval retries 0 (instantAfter interval 0) = _
  generalize ask answer interval retries 0 (instantAfter interval 0) = run at *
  obtain ⟨acts, lookups, now, found⟩ := run
  cases hacts
  cases hlookups
  cases hnow
  cases hfound
  rfl

theorem need_atOnce (uri : String) (patience : Patience τ) (hfound : answer 1 = some doc) :
    need answer uri patience = (runOf patience.interval 0 (some doc), [], .ok doc) := by
  unfold need
  rw [hfound]
  rfl

theorem need_out_of_range (uri : String) (hfirst : answer 1 = none)
    (hwindow : window? patience = none) :
    need answer uri patience =
      (runOf patience.interval 0 none, [], .error (.number .tooLarge)) := by
  unfold need
  rw [hfirst, hwindow]
  rfl

theorem need_later (uri : String) (hwindow : window? patience = some waited) (hpositive : 0 < n)
    (hretries : n ≤ patience.retries.toNat) (hbefore : NothingUpTo answer n)
    (hfound : answer (n + 1) = some doc) :
    need answer uri patience =
      (runOf patience.interval n (some doc), [readyRecord uri n], .ok doc) := by
  have hrun : ask answer patience.interval patience.retries.toNat 0 Clock.start = _ :=
    ask_eq_runOf hretries hbefore (by simp [hfound])
  unfold need
  rw [hbefore 1 (by omega) hpositive, hwindow]
  dsimp only
  rw [hrun, hfound]
  rfl

theorem need_never (uri : String) (hwindow : window? patience = some waited)
    (hnothing : NothingUpTo answer (patience.retries.toNat + 1)) :
    need answer uri patience = (runOf patience.interval patience.retries.toNat none,
      [Room.exhaustedRecord uri patience waited], .error (Room.exhausted uri patience waited)) := by
  have hlast : answer (patience.retries.toNat + 1) = none := hnothing _ (by omega) le_rfl
  have hrun : ask answer patience.interval patience.retries.toNat 0 Clock.start = _ :=
    ask_eq_runOf le_rfl (fun j hj hle => hnothing j hj (by omega)) fun _ => rfl
  unfold need
  rw [hnothing 1 (by omega) (by omega), hwindow]
  dsimp only
  rw [hrun, hlast]
  rfl

theorem times?_of_window? (hwindow : window? patience = some waited) :
    Clock.times? patience.interval patience.retries = some waited := by
  unfold window? at hwindow
  split at hwindow
  · cases hwindow
  · exact hwindow

/-- If the time waited can be shown, the error of giving up is the one it is meant to be. -/
theorem exhausted_shown (uri : String) (patience : Patience τ) {text : String}
    (htext : (Clock.toValue waited).oneDecimal = .ok text) : ∃ problem : Problem,
    Room.exhausted uri patience waited = .notIndexed problem ∧ problem.code = .documentTimeout ∧
    problem.details = [("uri", .text uri), ("attempts", .int patience.retries),
      ("waited_sec", Clock.toValue waited)] := by
  unfold Room.exhausted Problem.notIndexed
  rw [htext]
  exact ⟨_, rfl, rfl, rfl⟩

theorem exhausted_not_shown (uri : String) (patience : Patience τ) {e : NumberError}
    (herror : (Clock.toValue waited).oneDecimal = .error e) :
    Room.exhausted uri patience waited = .number e := by
  unfold Room.exhausted Problem.notIndexed
  rw [herror]
  rfl

theorem Polls.ne_number {outcome : Run τ × List Record × Except TaskError Document}
    (h : Polls answer uri patience outcome) (e : NumberError) :
    outcome.2.2 ≠ .error (.number e) := by
  cases h <;> simp

end Runs

/-! ## Numbers out of range -/

section OutOfRange

variable {answer : Nat → Option Document} {patience : Patience Seconds}

/-- A whole number with no place among the binary numbers. -/
def TooLarge (n : Int) : Prop :=
  Decimal.ofInt? n = none

/-- Some number that polling needs is too large, and it is needed after so many sleeps. -/
inductive Overflows (answer : Nat → Option Document) (patience : Patience Seconds) :
    Nat → Prop where
  /-- The interval is multiplied by the retries before the first sleep. -/
  | product {x : Float} (hfirst : answer 1 = none) (hinterval : patience.interval = .real x)
      (hretries : TooLarge patience.retries) : Overflows answer patience 0
  /-- No clock can be set to the end of the first sleep. -/
  | pause {m : Int} (hfirst : answer 1 = none) (hinterval : patience.interval = .whole m)
      (hpositive : 0 < m) (hretries : 0 < patience.retries) (hlarge : TooLarge m) :
      Overflows answer patience 0
  /-- The time waited is shown in the message of the error. -/
  | message {m : Int} (hnothing : NothingUpTo answer (patience.retries.toNat + 1))
      (hinterval : patience.interval = .whole m) (hlarge : TooLarge (m * patience.retries))
      (hpause : 0 < m → 0 < patience.retries → ¬ TooLarge m) :
      Overflows answer patience patience.retries.toNat

instance (n : Int) : Decidable (TooLarge n) :=
  decidable_of_iff _ Option.isNone_iff_eq_none

theorem oneDecimal_of_tooLarge {n : Int} (h : TooLarge n) :
    (Value.int n).oneDecimal = .error .tooLarge := by
  have hnone : Decimal.ofInt? n = none := h
  simp only [Value.oneDecimal, hnone]

theorem oneDecimal_of_not_tooLarge {n : Int} (h : ¬ TooLarge n) :
    ∃ text, (Value.int n).oneDecimal = .ok text := by
  obtain ⟨x, hx⟩ := Option.ne_none_iff_exists'.mp h
  simp only [Value.oneDecimal, hx]
  exact ⟨_, rfl⟩

theorem window?_real {x : Float} (hinterval : patience.interval = .real x) :
    window? patience = (Decimal.ofInt? patience.retries).map fun y => .real (x * y) := by
  have hpass : Clock.canPass (Seconds.real x) = true := Bool.or_true _
  simp [window?, hinterval, hpass, Clock.times?, Seconds.times?]

theorem window?_whole {m : Int} (hinterval : patience.interval = .whole m) :
    window? patience = if 0 < patience.retries ∧ 0 < m ∧ TooLarge m then none
      else some (.whole (m * patience.retries)) := by
  have hpass : Clock.canPass (Seconds.whole m) =
      (decide (m ≤ 0) || (Decimal.ofInt? m).isSome) := rfl
  simp only [window?, hinterval, hpass, Clock.times?, Seconds.times?]
  exact if_congr (by simp [TooLarge]) rfl rfl

theorem need_of_overflows (uri : String) {n : Nat} (h : Overflows answer patience n) :
    (need answer uri patience).1 = runOf patience.interval n none ∧
    (need answer uri patience).2.2 = .error (.number .tooLarge) := by
  cases h with
  | product hfirst hinterval hretries =>
    have hwindow : window? patience = none := by
      rw [window?_real hinterval, show Decimal.ofInt? patience.retries = none from hretries]
      rfl
    rw [need_out_of_range uri hfirst hwindow]
    exact ⟨rfl, rfl⟩
  | pause hfirst hinterval hpositive hretries hlarge =>
    have hwindow : window? patience = none := by
      rw [window?_whole hinterval, if_pos ⟨hretries, hpositive, hlarge⟩]
    rw [need_out_of_range uri hfirst hwindow]
    exact ⟨rfl, rfl⟩
  | @message m hnothing hinterval hlarge hpause =>
    have hwindow : window? patience = some (.whole (m * patience.retries)) := by
      rw [window?_whole hinterval, if_neg fun h => hpause h.2.1 h.1 h.2.2]
    rw [need_never uri hwindow hnothing,
      exhausted_not_shown uri patience (oneDecimal_of_tooLarge hlarge)]
    exact ⟨rfl, rfl⟩

/-- With all numbers in range there is a window, and it can be shown where it has to be. -/
theorem exists_window (h : ∀ n, ¬ Overflows answer patience n) (hfirst : answer 1 = none) :
    ∃ waited, window? patience = some waited ∧
      (NothingUpTo answer (patience.retries.toNat + 1) →
        ∃ text, (Clock.toValue waited).oneDecimal = .ok text) := by
  cases hinterval : patience.interval with
  | real x =>
    have hretries : ¬ TooLarge patience.retries := fun hlarge =>
      h 0 (.product hfirst hinterval hlarge)
    obtain ⟨y, hy⟩ := Option.ne_none_iff_exists'.mp hretries
    refine ⟨.real (x * y), ?_, fun _ => ⟨_, rfl⟩⟩
    rw [window?_real hinterval, hy]
    rfl
  | whole m =>
    have hpause : 0 < m → 0 < patience.retries → ¬ TooLarge m := fun hm hretries hlarge =>
      h 0 (.pause hfirst hinterval hm hretries hlarge)
    refine ⟨.whole (m * patience.retries), ?_, fun hnothing => ?_⟩
    · rw [window?_whole hinterval, if_neg fun h => hpause h.2.1 h.1 h.2.2]
    · exact oneDecimal_of_not_tooLarge fun hlarge =>
        h _ (.message hnothing hinterval hlarge hpause)

theorem polls_of_not_overflows (uri : String) (h : ∀ n, ¬ Overflows answer patience n) :
    Polls answer uri patience (need answer uri patience) := by
  cases hfirst : answer 1 with
  | some doc =>
    rw [need_atOnce uri patience hfirst]
    exact .atOnce hfirst
  | none =>
    obtain ⟨waited, hwindow, hshown⟩ := exists_window h hfirst
    rcases nothingUpTo_or_first answer patience.retries.toNat with
      hnothing | ⟨n, doc, hn, hbefore, hfound⟩
    · obtain ⟨text, htext⟩ := hshown hnothing
      obtain ⟨problem, hproblem, hcode, hdetails⟩ := exhausted_shown uri patience htext
      rw [need_never uri hwindow hnothing, hproblem]
      exact .never hnothing (times?_of_window? hwindow) hcode hdetails
    · have hpositive : 0 < n := by
        rcases Nat.eq_zero_or_pos n with rfl | hn
        · simp [hfirst] at hfound
        · exact hn
      rw [need_later uri hwindow hpositive hn hbefore hfound]
      exact .later hpositive hn hbefore hfound

/-- **Polling is exact unless a number is too large.** For every map, however its answers change,
the polling ends as it is to end if and only if no number that it needs is out of range. Otherwise
it ends with the error of that number, and the acts before it are those of a polling that finds
nothing. Every sleep is taken to come to its end. -/
theorem polling_exact_iff (answer : Nat → Option Document) (uri : String)
    (patience : Patience Seconds) :
    (Polls answer uri patience (need answer uri patience) ↔ ∀ n, ¬ Overflows answer patience n) ∧
    ∀ n, Overflows answer patience n →
      (need answer uri patience).1 = runOf patience.interval n none ∧
      (need answer uri patience).2.2 = .error (.number .tooLarge) := by
  refine ⟨⟨fun hpolls n hoverflows => ?_, polls_of_not_overflows uri⟩,
    fun n => need_of_overflows uri⟩
  exact hpolls.ne_number _ (need_of_overflows uri hoverflows).2

/-- A quarter of a second and more retries than there are binary numbers for: the document comes
with the second lookup, which is not made. -/
theorem polling_inexact :
    let doc : Document := { uri := "u" }
    let answer := fun lookup => if 2 ≤ lookup then some doc else none
    let patience : Patience Seconds := ⟨.real 0.25, 10 ^ 400⟩
    answer 1 = none ∧ answer 2 = some doc ∧ 1 ≤ patience.retries ∧
    (need answer "u" patience).1 = runOf patience.interval 0 none ∧
    (need answer "u" patience).2.2 = .error (.number .tooLarge) ∧
    ¬ Polls answer "u" patience (need answer "u" patience) := by
  intro doc answer patience
  have hlarge : TooLarge patience.retries := by decide +kernel
  have hoverflows : Overflows answer patience 0 := .product rfl rfl hlarge
  obtain ⟨hrun, hresult⟩ := need_of_overflows "u" hoverflows
  exact ⟨rfl, rfl, by decide +kernel, hrun, hresult, fun hpolls => hpolls.ne_number _ hresult⟩

end OutOfRange

end PerlSymbols.Polling
