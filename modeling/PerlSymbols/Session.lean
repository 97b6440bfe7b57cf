import PerlSymbols.Hover
import PerlSymbols.Index.Waiting
import PerlSymbols.Log.Journal
import PerlSymbols.Settings.Load

/-!
# Sessions

A session serves one workspace: it has the index, the map of modules, and the texts that are open.
Requests for hovers and outlines bind a request id while they run, and none is bound when they have
ended.
-/

namespace PerlSymbols

structure Session where
  settings : Settings
  room : Room Seconds := Room.ofIndex (Index.ofDocuments [])
  modules : ModuleMap := []
  /-- The texts of the open documents. -/
  texts : Entries String String := []
  /-- The request id that is bound where requests come from. -/
  request : Option String := none

/-- Why a session cannot be started. -/
inductive StartFailure where
  | load (e : Settings.LoadFailure)
  | number (e : NumberError)

namespace Session

/-- A session whose settings are those of a workspace. Its start is recorded. -/
def ofWorkspace (workspace : String) (sources : Settings.Sources) :
    Except StartFailure Session := do
  let settings ← (Settings.load sources).mapError .load
  let timeout ← settings.index.waitTimeout.mapError .number
  let session : Session := { settings }
  return { session with
    room := session.room.emit none [{
      level := .info
      event := "session_started"
      fields := [("workspace", .text workspace), ("wait_timeout_sec", .float timeout)] }] }

/-- How long requests wait for documents. -/
def patience (s : Session) : Patience Seconds where
  interval := .real s.settings.index.interval
  retries := s.settings.index.retries

/-! ## Request ids -/

/-- Binds the given request id, or a new one. -/
def bindRequest (s : Session) (given : Option String) : Session :=
  let context : Log.Context :=
    { request := s.request, made := s.room.requests, ids := s.room.ids }
  let context := context.bind given
  { s with request := context.request, room := { s.room with requests := context.made } }

def clearRequest (s : Session) : Session :=
  { s with request := none }

/-! ## The workspace changes -/

def publish (s : Session) (doc : Document) : Session :=
  { s with room := s.room.publish s.request doc }

def openDocument (s : Session) (uri text : String) : Session :=
  { s with texts := s.texts.put uri text }

/-- Forgets the text of a document and takes it out of the index. -/
def closeDocument (s : Session) (uri : String) : Session :=
  { s with texts := s.texts.erase uri, room := s.room.discard s.request uri }

/-- Replaces the map of modules as a whole. -/
def setModules (s : Session) (modules : ModuleMap) : Session :=
  { s with
    modules
    room := s.room.emit s.request [{
      level := .info
      event := "module_map_updated"
      fields := [("modules", .int modules.length)] }] }

/-! ## Requests -/

/-- What a hover request does while its id is bound. -/
def traceHover (s : Session) (uri : String) (position : Position) :
    Traced RequestError (Option Hover.Contents) :=
  match s.room.index.get? uri, s.texts.get? uri with
  | some doc, some text =>
    PerlSymbols.hover uri position doc text s.modules (some s.room.index.get?)
  | doc?, _ => do
    Traced.log .debug "hover_skipped" [("uri", .text uri), ("indexed", .bool doc?.isSome)]
    return none

/-- The hover at a position. A document that is not indexed, or not open, has none. -/
def hover (s : Session) (uri : String) (position : Position) :
    Session × Except RequestError (Option Hover.Contents) :=
  let s := s.bindRequest none
  let traced := s.traceHover uri position
  let s := { s with room := s.room.emit s.request traced.records }
  (s.clearRequest, traced.outcome)

/-- A request for an outline. -/
def outlineTask (s : Session) (id uri : String) : Task Seconds where
  id
  uri
  goal := .outline s.patience
  request := none

/-- The symbols of a document, waiting for it if need be. Other tasks go on meanwhile. -/
def documentSymbols (s : Session) (uri : String) : Session × Outcome :=
  let (room, outcome) := s.room.perform (s.outlineTask "" uri)
  ({ s with room }.clearRequest, outcome)

/-- The same in the background. -/
def startDocumentSymbols (s : Session) (id uri : String) : Session :=
  { s with room := s.room.start (s.outlineTask id uri) }

/-- The modules of the workspace; the query does not narrow them. -/
def workspaceSymbols (s : Session) (query : String) : Except RequestError (List Symbol) :=
  Outline.ofModules query s.modules

def cancel (s : Session) (id : String) : Session :=
  { s with room := s.room.cancel id }

def settle (s : Session) : Session :=
  { s with room := s.room.settle }

def advance (s : Session) (duration : Seconds) : Session :=
  { s with room := s.room.advance duration }

/-! ## The log -/

/-- Moves the log records since the last report into a journal. -/
def flush (s : Session) (time : String) (journal : Log.Journal) : Session × Log.Journal :=
  let journal := s.room.emissions.foldl
    (fun j e => j.log time e.request (.ofRecord e.record)) journal
  ({ s with room := { s.room with emissions := [] } }, journal)

end Session

end PerlSymbols
