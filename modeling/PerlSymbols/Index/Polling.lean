import PerlSymbols.Index.Waiting

/-!
# Asking a plain map again and again

A map that gives no signal is asked at intervals. It is asked once at the start and then after
each interval, as often as the retries allow; the first answer ends the polling.
-/

namespace PerlSymbols

namespace Polling

variable {τ : Type} [Clock τ]

/-- One thing that polling does. -/
inductive Act (τ : Type) where
  | look
  | sleep (interval : τ)

/-- What polling did: its acts in order, how often it asked, when it stopped, and the document it
found. -/
structure Run (τ : Type) where
  acts : List (Act τ)
  lookups : Nat
  now : τ
  found : Option Document

/-- An interval that is not positive takes no time. -/
def sleep (now interval : τ) : τ :=
  if Clock.le interval Clock.nothing then now else Clock.add now interval

/-- A run that goes on after some acts. -/
def Run.after (acts : List (Act τ)) (run : Run τ) : Run τ :=
  { run with acts := acts ++ run.acts }

/-- Asks for lookup number `asked + 1` and, while retries are left, for the ones after it. The
answers may differ from lookup to lookup. -/
def ask (answer : Nat → Option Document) (interval : τ) (retries asked : Nat) (now : τ) : Run τ :=
  match answer (asked + 1), retries with
  | some doc, _ => ⟨[.look], asked + 1, now, some doc⟩
  | none, 0 => ⟨[.look], asked + 1, now, none⟩
  | none, retries + 1 =>
    (ask answer interval retries (asked + 1) (sleep now interval)).after [.look, .sleep interval]

/-- The time that polling takes at most; `none` where it or an interval to be slept is out of
range. -/
def window? (patience : Patience τ) : Option τ :=
  if 0 < patience.retries && !Clock.canPass patience.interval then none
  else Clock.times? patience.interval patience.retries

/-- The record of a document that came after some attempts. -/
def readyRecord (uri : String) (attempts : Nat) : Record where
  level := .debug
  event := "document_ready"
  fields := [("uri", .text uri), ("attempts", .int attempts)]

/-- Polling as a whole, with its log records and its result. -/
def need (answer : Nat → Option Document) (uri : String) (patience : Patience τ) :
    Run τ × List Record × Except TaskError Document :=
  match answer 1 with
  | some doc => (⟨[.look], 1, Clock.start, some doc⟩, [], .ok doc)
  | none =>
    match window? patience with
    | none => (⟨[.look], 1, Clock.start, none⟩, [], .error (.number .tooLarge))
    | some waited =>
      let run := ask answer patience.interval patience.retries.toNat 0 Clock.start
      match run.found with
      | some doc => (run, [readyRecord uri (run.lookups - 1)], .ok doc)
      | none =>
        (run, [Room.exhaustedRecord uri patience waited],
          .error (Room.exhausted uri patience waited))

/-- Polling for a document to list its symbols. -/
def outline (answer : Nat → Option Document) (uri : String) (patience : Patience τ) :
    Run τ × List Record × Outcome :=
  let (run, records, result) := need answer uri patience
  match result with
  | .ok doc => (run, records, Room.outlined uri doc)
  | .error e =>
    let (more, outcome) := Room.notOutlined uri e
    (run, records ++ more, outcome)

end Polling

end PerlSymbols
