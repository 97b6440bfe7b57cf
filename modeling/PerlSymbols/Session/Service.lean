import PerlSymbols.Session

/-!
# A session with concurrent requests

Requests run as tasks of their own, in any order and between any changes of the workspace. Each has
its own copy of the variable that holds the request id.
-/

namespace PerlSymbols.Session

/-- A request for a hover that has not had its turn. -/
structure HoverCall where
  name : String
  uri : String
  position : Position
  cancelled : Bool := false

/-- A session with its requests as tasks. -/
structure Service where
  session : Session
  hovers : List HoverCall := []
  /-- How the hovers ended. One that was cancelled before its turn has no result. -/
  answered : List (String × Option (Except RequestError (Option Hover.Contents))) := []
  /-- The copies of the request id that the requests have, by their names. -/
  contexts : Entries String (Option String) := []
  /-- Which request bound which id. -/
  bound : List (String × String) := []

namespace Service

def nextId (v : Service) : String :=
  v.session.room.newRequest.2

def ended (v : Service) : List String :=
  v.session.room.finished.map Prod.fst ++ v.answered.map Prod.fst

def contextOf (v : Service) (name : String) : Log.Context where
  request := (v.contexts.get? name).join
  made := v.session.room.requests
  ids := v.session.room.ids

/-! ## What happens -/

/-- The workspace changes, and whoever changes it has some id bound or none. -/
def change (v : Service) (caller : Option String) (f : Session → Session) : Service :=
  { v with
    session := { f { v.session with request := caller } with request := v.session.request } }

/-- A new request gets a copy of the id that is bound where requests come from. -/
def askHover (v : Service) (name uri : String) (position : Position) : Service :=
  { v with
    hovers := v.hovers ++ [{ name, uri, position }]
    contexts := v.contexts.put name v.session.request }

def askOutline (v : Service) (name uri : String) : Service :=
  { v with
    session := v.session.startDocumentSymbols name uri
    contexts := v.contexts.put name v.session.request }

def cancel (v : Service) (name : String) : Service :=
  { v with
    session := v.session.cancel name
    hovers := v.hovers.map fun call =>
      if call.name = name then { call with cancelled := true } else call }

def setRoom (v : Service) (room : Room Seconds) : Service :=
  { v with session := { v.session with room } }

/-- A hover has its turn and runs to its end, unless it was cancelled before. -/
def serveHover (v : Service) (call : HoverCall) (others : List HoverCall) : Service :=
  if call.cancelled then
    { v with hovers := others, answered := v.answered ++ [(call.name, none)] }
  else
    let (s, result) := { v.session with request := (v.contextOf call.name).request }.hover
      call.uri call.position
    { v with
      session := { s with request := v.session.request }
      hovers := others
      answered := v.answered ++ [(call.name, some result)]
      contexts := v.contexts.put call.name s.request
      bound := v.bound ++ [(call.name, v.nextId)] }

/-- What the turn of a request for an outline leaves in its copy of the id: a request that begins
binds an id, and one that ends clears it, unless it never began. -/
def contextAfter (context : Log.Context) (wake : Wake Seconds) (ended : Bool) : Log.Context :=
  let context := match wake with
    | .begin => context.bind none
    | _ => context
  match wake, ended with
  | .abandoned, _ | _, false => context
  | _, true => context.clear

def serveOutline (v : Service) (r : Runnable Seconds) (others : List (Runnable Seconds)) :
    Service :=
  let room := { v.session.room with queue := others }.resume r.task r.wake
  let context := contextAfter (v.contextOf r.task.id) r.wake (room.hasFinished r.task.id)
  { v.setRoom room with
    contexts := v.contexts.put r.task.id context.request
    bound := match r.wake with
      | .begin => v.bound ++ [(r.task.id, v.nextId)]
      | _ => v.bound }

/-- On whose behalf something happens. -/
inductive Author where
  /-- The indexer or the editor, with the id that is bound where it is called. -/
  | workspace (caller : Option String)
  | request (name : String)
  /-- On nobody's behalf: requests come, are cancelled, and are woken. -/
  | nobody

/-- One thing that happens. Turns come in any order, and deadlines are reached at any time. -/
inductive Step (v : Service) : Author → Service → Prop
  | publish (caller : Option String) (doc : Document) :
    Step v (.workspace caller) (v.change caller (·.publish doc))
  | close (caller : Option String) (uri : String) :
    Step v (.workspace caller) (v.change caller (·.closeDocument uri))
  | setModules (caller : Option String) (modules : ModuleMap) :
    Step v (.workspace caller) (v.change caller (·.setModules modules))
  | openText (caller : Option String) (uri text : String) :
    Step v (.workspace caller) (v.change caller (·.openDocument uri text))
  | askHover (name uri : String) (position : Position) (hnew : v.contexts.get? name = none) :
    Step v .nobody (v.askHover name uri position)
  | askOutline (name uri : String) (hnew : v.contexts.get? name = none) :
    Step v .nobody (v.askOutline name uri)
  | cancel (name : String) : Step v .nobody (v.cancel name)
  | expire (which : Blocked Seconds → Bool) (count : Nat) :
    Step v .nobody (v.setRoom (v.session.room.wakeWhere which .expired count))
  | elapse (instant : Seconds) : Step v .nobody (v.setRoom { v.session.room with now := instant })
  | handOn {before r after} (n : Nat) (h : v.session.room.queue = before ++ r :: after) :
    Step v .nobody (v.setRoom
      { v.session.room with queue := before ++ after ++ [{ r with handoffs := n }] })
  | hover {before call after} (h : v.hovers = before ++ call :: after) :
    Step v (.request call.name) (v.serveHover call (before ++ after))
  | outline {before r after} (h : v.session.room.queue = before ++ r :: after) :
    Step v (.request r.task.id) (v.serveOutline r (before ++ after))

/-- A service that started without requests, with some generator of ids, and went through any number
of steps. -/
inductive Reachable : Service → Prop
  | opened (settings : Settings) (ids : Log.Ids) :
    Reachable { session :=
      { settings, room := { Room.ofIndex (Index.ofDocuments []) with ids } } }
  | step {v author v'} : Reachable v → Step v author v' → Reachable v'

end Service

end PerlSymbols.Session
