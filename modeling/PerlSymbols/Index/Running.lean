import PerlSymbols.Index.Waiting

/-!
# Runs

A caller publishes and discards documents, starts and cancels tasks, and lets the others run or
time pass. Between two operations the tasks that can run need not have had their turns. Where the
order of turns is not to matter, the tasks have them in any order, and deadlines may be reached at
any time.
-/

namespace PerlSymbols.Room

/-! ## Operations -/

/-- What a caller does with a room. -/
inductive Op (τ : Type) where
  | publish (request : Option String) (doc : Document)
  | discard (request : Option String) (uri : String)
  | start (task : Task τ)
  | cancel (id : String)
  /-- Lets all who can run have their turns. -/
  | settle
  /-- Lets the clock move and then all who can run have their turns. -/
  | moveOn (instant : τ)

/-- The tasks that can run have their turns. -/
def Op.settles {τ : Type} : Op τ → Bool
  | .settle | .moveOn _ => true
  | _ => false

/-- A document is published under the URI. -/
def Op.publishes {τ : Type} (uri : String) : Op τ → Bool
  | .publish _ doc => doc.uri == uri
  | _ => false

variable {τ : Type} [Clock τ]

def apply (room : Room τ) : Op τ → Room τ
  | .publish request doc => room.publish request doc
  | .discard request uri => room.discard request uri
  | .start task => room.start task
  | .cancel id => room.cancel id
  | .settle => room.settle
  | .moveOn instant => (room.moveTo instant).settle

def carryOut (room : Room τ) (ops : List (Op τ)) : Room τ :=
  ops.foldl apply room

/-- A room that was opened with some documents, after a run. -/
def after (docs : List Document) (ops : List (Op τ)) : Room τ :=
  (ofIndex (Index.ofDocuments docs)).carryOut ops

/-! ## Steps -/

/-- One thing that happens in a room. Turns come in any order. -/
inductive Step : Room τ → Room τ → Prop
  | publish {room} (request : Option String) (doc : Document) : Step room (room.publish request doc)
  | discard {room} (request : Option String) (uri : String) : Step room (room.discard request uri)
  | start {room} (task : Task τ) : Step room (room.start task)
  | cancel {room} (id : String) : Step room (room.cancel id)
  /-- Some deadlines are reached. -/
  | expire {room} (which : Blocked τ → Bool) (count : Nat) :
    Step room (room.wakeWhere which .expired count)
  | elapse {room} (instant : τ) : Step room { room with now := instant }
  /-- A wake-up is handed on. -/
  | handOn {room before r after} (n : Nat) (h : room.queue = before ++ r :: after) :
    Step room { room with queue := before ++ after ++ [{ r with handoffs := n }] }
  /-- A task has its turn, wherever in the queue it stands. -/
  | resume {room before r after} (h : room.queue = before ++ r :: after) :
    Step room ({ room with queue := before ++ after }.resume r.task r.wake)

/-- A room that was opened with some documents and went through any number of steps. -/
inductive Reachable : Room τ → Prop
  | opened (docs : List Document) : Reachable (ofIndex (Index.ofDocuments docs))
  | step {room room'} : Reachable room → Step room room' → Reachable room'

end PerlSymbols.Room
