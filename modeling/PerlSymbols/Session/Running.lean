import PerlSymbols.Session

/-!
# Runs of a session

A session goes through any run of changes of its workspace and of requests, some of them in the
background.
-/

namespace PerlSymbols.Session

/-- What happens to a session. -/
inductive Act where
  | publish (doc : Document)
  | openText (uri text : String)
  | close (uri : String)
  | setModules (modules : ModuleMap)
  | hover (uri : String) (position : Position)
  /-- A request for an outline in the background. Those in the foreground have the empty name. -/
  | request (id uri : String) (named : id ≠ "")
  | cancel (id : String)
  | settle
  /-- Lets the clock move and then all who can run have their turns. -/
  | moveOn (instant : Seconds)

def act (s : Session) : Act → Session
  | .publish doc => s.publish doc
  | .openText uri text => s.openDocument uri text
  | .close uri => s.closeDocument uri
  | .setModules modules => s.setModules modules
  | .hover uri position => (s.hover uri position).1
  | .request id uri _ => s.startDocumentSymbols id uri
  | .cancel id => s.cancel id
  | .settle => s.settle
  | .moveOn instant => { s with room := (s.room.moveTo instant).settle }

def after (settings : Settings) (acts : List Act) : Session :=
  acts.foldl act { settings }

end PerlSymbols.Session
