import PerlSymbols.Clock
import PerlSymbols.Index
import PerlSymbols.Log.Context
import PerlSymbols.Outline
import PerlSymbols.Problem
import PerlSymbols.Trace

/-!
# Waiting for documents

Tasks wait for a document to be published, each with a deadline. Everything happens in turns: a
task that can run stands in a queue, the first one takes its turn, and a wake-up reaches its task
only after a number of hand-offs, each of which goes through the queue once more. The clock moves
only when the queue is empty, and then straight to the next deadline.
-/

namespace PerlSymbols

/-- Why a task fails. -/
inductive TaskError where
  /-- The document was not published in time. -/
  | notIndexed (p : Problem)
  | number (e : NumberError)
  | request (e : RequestError)
  | cancelled

/-- How a task ends. -/
inductive Outcome where
  | document (doc : Option Document)
  | symbols (found : List Symbol)
  | failed (e : TaskError)

/-- How often and at which interval a plain map would be asked for a document; the product is the
time to wait for it. -/
structure Patience (τ : Type) where
  interval : τ
  retries : Int

/-- The patience of a caller who names none: a hundred times a tenth of a second. -/
def Patience.standard : Patience Seconds where
  interval := .real 0.1
  retries := 100

/-- What a task waits for a document for. -/
inductive Goal (τ : Type) where
  /-- To have it, or to know that it did not come in time. -/
  | wait (timeout : τ)
  /-- To have it; not to get it is an error. -/
  | need (patience : Patience τ)
  /-- To list its symbols; not to get it gives an empty list. -/
  | outline (patience : Patience τ)

/-- A log record with the request in which it was written. -/
structure Emission where
  request : Option String
  record : Record

structure Task (τ : Type) where
  id : String
  uri : String
  goal : Goal τ
  /-- The request that the task belongs to. -/
  request : Option String

/-- What a waiter gets when it comes: the signal to wait for, and for how long. -/
structure Ticket (τ : Type) where
  signal : Nat
  timeout : τ

/-- What happens when a task has its turn. -/
inductive Wake (τ : Type) where
  | begin
  /-- It was cancelled before it began. -/
  | abandoned
  /-- The document it waited for was published. -/
  | published (ticket : Ticket τ)
  /-- Its deadline was reached. -/
  | expired (ticket : Ticket τ)
  | cancelled (ticket : Ticket τ)

/-- The ticket of a waiter that was woken and has not left yet. -/
def Wake.ticket? {τ : Type} : Wake τ → Option (Ticket τ)
  | .begin | .abandoned => none
  | .published ticket | .expired ticket | .cancelled ticket => some ticket

/-- A task in the queue, with the hand-offs that remain before its turn counts. -/
structure Runnable (τ : Type) where
  task : Task τ
  wake : Wake τ
  handoffs : Nat

/-- A task that waits for a signal. -/
structure Blocked (τ : Type) where
  task : Task τ
  ticket : Ticket τ
  deadline : τ

/-- The hand-offs on the way of a wake-up to its task. -/
structure Handoffs where
  published : Nat
  /-- A deadline that passes while the task waits. -/
  expired : Nat
  /-- A deadline that has passed when the task begins. -/
  expiredAtOnce : Nat
  cancelled : Nat

/-- A wake-up goes through the inner wait and its completion; a wait that is given up has its
inner wait cancelled first. The counts are those of the timed wait of asyncio 3.11, on whose event
loop the tasks run; another loop may have others. -/
def handoffs : Handoffs := ⟨2, 4, 2, 3⟩

/-- The index with everything that waits on it. -/
structure Room (τ : Type) where
  index : Index
  now : τ
  /-- Tasks that can run, first come first served. -/
  queue : List (Runnable τ) := []
  /-- Tasks that wait, in the order in which they began to. -/
  blocked : List (Blocked τ) := []
  /-- Tasks that ended since the last report. -/
  finished : List (String × Outcome) := []
  /-- Log records since the last report. -/
  emissions : List Emission := []
  /-- How many request ids were made. -/
  requests : Nat := 0
  /-- Where request ids come from. -/
  ids : Log.Ids := Log.countingIds

namespace Room

variable {τ : Type} [Clock τ]

def ofIndex (index : Index) : Room τ where
  index
  now := Clock.start

def emit (room : Room τ) (request : Option String) (records : List Record) : Room τ :=
  { room with emissions := room.emissions ++ records.map fun record => ⟨request, record⟩ }

def newRequest (room : Room τ) : Room τ × String :=
  ({ room with requests := room.requests + 1 }, room.ids (room.requests + 1))

/-- The request ids that were made, in order. -/
def drawn (room : Room τ) : List String :=
  (List.range room.requests).map fun k => room.ids (k + 1)

def finish (room : Room τ) (task : Task τ) (outcome : Outcome) : Room τ :=
  { room with finished := room.finished ++ [(task.id, outcome)] }

/-! ## Results -/

/-- The record of a wait that was given up. -/
def exhaustedRecord (uri : String) (patience : Patience τ) (waited : τ) : Record where
  level := .debug
  event := "document_wait_exhausted"
  fields := [("uri", .text uri), ("attempts", .int patience.retries),
    ("waited_sec", Clock.toValue waited)]

/-- The error of a wait that was given up. -/
def exhausted (uri : String) (patience : Patience τ) (waited : τ) : TaskError :=
  match Problem.notIndexed uri (.int patience.retries) (Clock.toValue waited) with
  | .ok p => .notIndexed p
  | .error e => .number e

/-- The outline of a document. -/
def outlined (uri : String) (doc : Document) : Outcome :=
  match Outline.ofDocument uri doc with
  | .ok found => .symbols found
  | .error e => .failed (.request e)

/-- The outline of a document that could not be had: empty if it did not come in time. -/
def notOutlined (uri : String) : TaskError → List Record × Outcome
  | .notIndexed p =>
    ([{ level := .debug, event := "document_symbols_unavailable",
        fields := [("uri", .text uri), ("reason", .text p.message)] }], .symbols [])
  | e => ([], .failed e)

/-- How a task ends that has its document. -/
def fulfilled (task : Task τ) (doc : Document) : Outcome :=
  match task.goal with
  | .wait _ | .need _ => .document (some doc)
  | .outline _ => outlined task.uri doc

/-- How a task ends that was ready to wait for some time and has no document. -/
def disappointed (task : Task τ) (waited : τ) : List Record × Outcome :=
  match task.goal with
  | .wait _ => ([], .document none)
  | .need patience =>
    ([exhaustedRecord task.uri patience waited], .failed (exhausted task.uri patience waited))
  | .outline patience =>
    let (records, outcome) := notOutlined task.uri (exhausted task.uri patience waited)
    (exhaustedRecord task.uri patience waited :: records, outcome)

/-- Ends a task with what it found. -/
def conclude (room : Room τ) (task : Task τ) (waited : τ) : Option Document → Room τ
  | some doc => room.finish task (fulfilled task doc)
  | none =>
    let (records, outcome) := disappointed task waited
    (room.emit task.request records).finish task outcome

/-! ## Turns -/

/-- How long a task is ready to wait; `none` where that is out of range. -/
def timeout? (goal : Goal τ) : Option τ :=
  let timeout := match goal with
    | .wait timeout => some timeout
    | .need patience | .outline patience => Clock.times? patience.interval patience.retries
  timeout.filter Clock.canPass

/-- A request for an outline gets its id when it begins. -/
def identify (room : Room τ) (task : Task τ) : Room τ × Task τ :=
  match task.goal with
  | .outline _ =>
    let (room, id) := room.newRequest
    (room, { task with request := some id })
  | _ => (room, task)

/-- A deadline lies ahead if it is later than now; one that cannot be compared does not. -/
def liesAhead (now deadline : τ) : Bool :=
  Clock.le now deadline && !Clock.le deadline now

/-- A task begins to wait. A timeout that is not positive expires at once. -/
def enter (room : Room τ) (task : Task τ) (timeout : τ) : Room τ :=
  let (index, signal) := room.index.enter task.uri
  let room := { room with index }
  let ticket : Ticket τ := { signal, timeout }
  let deadline := Clock.add room.now timeout
  if Clock.le timeout Clock.nothing then
    { room with queue := room.queue ++ [⟨task, .expired ticket, handoffs.expiredAtOnce⟩] }
  else if liesAhead room.now deadline then
    { room with blocked := room.blocked ++ [⟨task, ticket, deadline⟩] }
  else { room with queue := room.queue ++ [⟨task, .expired ticket, handoffs.expired⟩] }

/-- A task begins. It ends at once if the document is there, and waits otherwise. -/
def begin (room : Room τ) (task : Task τ) : Room τ :=
  let (room, task) := room.identify task
  match room.index.get? task.uri with
  | some doc => room.finish task (fulfilled task doc)
  | none =>
    match timeout? task.goal with
    | some timeout => room.enter task timeout
    | none => room.finish task (.failed (.number .tooLarge))

/-- A waiter leaves. -/
def leave (room : Room τ) (task : Task τ) (ticket : Ticket τ) : Room τ :=
  { room with index := room.index.leave task.uri ticket.signal }

/-- A task has its turn. A woken one leaves the waiters; if a publication woke it, it reads the
index once more. -/
def resume (room : Room τ) (task : Task τ) : Wake τ → Room τ
  | .begin => room.begin task
  | .abandoned => room.finish task (.failed .cancelled)
  | .published ticket =>
    (room.leave task ticket).conclude task ticket.timeout (room.index.get? task.uri)
  | .expired ticket => (room.leave task ticket).conclude task ticket.timeout none
  | .cancelled ticket => (room.leave task ticket).finish task (.failed .cancelled)

/-- The first task of the queue has its turn, or is handed on. -/
def turn (room : Room τ) : Room τ :=
  match room.queue with
  | [] => room
  | ⟨task, wake, 0⟩ :: rest => { room with queue := rest }.resume task wake
  | ⟨task, wake, n + 1⟩ :: rest => { room with queue := rest ++ [⟨task, wake, n⟩] }

/-- More turns than a task can need from any of its states on. -/
def turnsLeft (room : Room τ) : Nat :=
  room.queue.foldl (fun n r => n + r.handoffs + 8) (8 * room.blocked.length)

/-- Turns until the queue is empty or a condition holds. -/
def turns (stop : Room τ → Bool) : Nat → Room τ → Room τ
  | 0, room => room
  | fuel + 1, room => if room.queue.isEmpty || stop room then room else turns stop fuel room.turn

/-- All tasks that can run do run until they wait or end. -/
def settle (room : Room τ) : Room τ :=
  turns (fun _ => false) room.turnsLeft room

/-! ## Wake-ups -/

/-- Moves tasks from the waiting ones to the end of the queue. -/
def wakeWhere (room : Room τ) (which : Blocked τ → Bool) (wake : Ticket τ → Wake τ)
    (count : Nat) : Room τ :=
  let woken := room.blocked.filter which
  { room with
    queue := room.queue ++ woken.map fun b => ⟨b.task, wake b.ticket, count⟩
    blocked := room.blocked.filter fun b => !which b }

/-- A waiter that is on its way out when its signal is given finds its inner wait over, so no more
hand-offs remain for it than for those whom the signal wakes. -/
def shorten (signal : Option Nat) (r : Runnable τ) : Runnable τ :=
  match r.wake.ticket? with
  | some ticket =>
    if some ticket.signal == signal then
      { r with handoffs := min r.handoffs PerlSymbols.handoffs.published }
    else r
  | none => r

/-- Publishes a document and wakes those who wait for it. -/
def publish (room : Room τ) (request : Option String) (doc : Document) : Room τ :=
  let (index, signal) := room.index.publish doc
  let room := { room with index, queue := room.queue.map (shorten signal) }
  let woken := room.wakeWhere (fun b => some b.ticket.signal == signal) .published
    handoffs.published
  woken.emit request [{
    level := .debug
    event := "document_published"
    fields := [("uri", .text doc.uri), ("symbols", .int doc.buckets.length)] }]

/-- Takes a document away. Nobody is woken. -/
def discard (room : Room τ) (request : Option String) (uri : String) : Room τ :=
  if room.index.docs.contains uri then
    { room with index := room.index.discard uri }.emit request [{
      level := .debug
      event := "document_discarded"
      fields := [("uri", .text uri)] }]
  else room

/-- Puts a new task at the end of the queue. -/
def start (room : Room τ) (task : Task τ) : Room τ :=
  { room with queue := room.queue ++ [⟨task, .begin, 0⟩] }

/-- What a cancellation makes of a wake-up that is on its way. A publication that came first
counts, and the task learns of it at once. -/
def cancelRunnable (r : Runnable τ) : Runnable τ :=
  match r.wake with
  | .begin => { r with wake := .abandoned }
  | .abandoned => r
  | .published _ => { r with handoffs := 0 }
  | .expired ticket => { r with wake := .cancelled ticket }
  | .cancelled _ => r

/-- A published task that is cancelled goes to the end of the queue. -/
def isHastened (r : Runnable τ) : Bool :=
  match r.wake with
  | .published _ => r.handoffs != 0
  | _ => false

def isUnfinished (room : Room τ) (id : String) : Bool :=
  room.queue.any (fun r => r.task.id == id) || room.blocked.any (fun b => b.task.id == id)

/-- What a cancellation makes of a task that stays in its place. -/
def cancelInPlace (id : String) (r : Runnable τ) : Runnable τ :=
  if r.task.id == id then cancelRunnable r else r

/-- What a cancellation makes of the queue. -/
def cancelQueue (id : String) (queue : List (Runnable τ)) : List (Runnable τ) :=
  let hastened := fun (r : Runnable τ) => r.task.id == id && isHastened r
  (queue.filter fun r => !hastened r).map (cancelInPlace id) ++
    (queue.filter hastened).map cancelRunnable

/-- Cancels a task that has not ended. -/
def cancel (room : Room τ) (id : String) : Room τ :=
  { room with queue := cancelQueue id room.queue }.wakeWhere
    (fun b => b.task.id == id) .cancelled handoffs.cancelled

/-! ## Time -/

/-- The earliest deadline. -/
def nextDeadline? (room : Room τ) : Option τ :=
  room.blocked.foldl (fun best b => match best with
    | none => some b.deadline
    | some t => some (if Clock.le t b.deadline then t else b.deadline)) none

/-- The clock moves to an instant, and everyone whose deadline it reaches is woken. -/
def moveTo (room : Room τ) (instant : τ) : Room τ :=
  let room := { room with now := instant }
  room.wakeWhere (fun b => Clock.le b.deadline instant) .expired handoffs.expired

/-- Lets time pass up to an instant, deadline after deadline. -/
def passTo (target : τ) : Nat → Room τ → Room τ
  | 0, room => room
  | fuel + 1, room =>
    let room := room.settle
    match room.nextDeadline? with
    | some deadline =>
      if Clock.le deadline target then passTo target fuel (room.moveTo deadline)
      else room.moveTo target
    | none => room.moveTo target

/-- Sleeps for a duration while the others run. -/
def advance (room : Room τ) (duration : τ) : Room τ :=
  if Clock.le duration Clock.nothing then room.settle
  else
    let tasks := room.queue.length + room.blocked.length
    (passTo (Clock.add room.now duration) (tasks + 1) room).settle

/-- Has a task ended since the last report? -/
def hasFinished (id : String) (room : Room τ) : Bool :=
  room.finished.any fun entry => entry.1 == id

/-- Runs until a task has ended, letting time pass where everyone waits. -/
def runUntil (id : String) : Nat → Room τ → Room τ
  | 0, room => room
  | fuel + 1, room =>
    let room := turns (hasFinished id) room.turnsLeft room
    if hasFinished id room then room
    else match room.nextDeadline? with
      | some deadline => runUntil id fuel (room.moveTo deadline)
      | none => room

/-- Runs a task at once, ahead of the queue, until it has ended. -/
def run (room : Room τ) (task : Task τ) : Room τ :=
  let room := room.begin task
  runUntil task.id (room.queue.length + room.blocked.length + 1) room

/-- Runs a task at once and takes its outcome out of the next report. -/
def perform (room : Room τ) (task : Task τ) : Room τ × Outcome :=
  let room := room.run task
  let outcome := (room.finished.find? fun entry => entry.1 == task.id).map Prod.snd
  ({ room with finished := room.finished.filter fun entry => entry.1 != task.id },
    outcome.getD (.failed .cancelled))

end Room

end PerlSymbols
