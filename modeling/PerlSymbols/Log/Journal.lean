import PerlSymbols.Log.Line
import PerlSymbols.Settings.Destination

/-!
# The journal

The journal has the settings of the log and everything that was written since the last report. A
message below the level of the log is dropped, or below that of its library if it has one; then each
output drops what is below its own level. Without any output, warnings and worse go to the standard
error stream.
-/

namespace PerlSymbols.Log

/-- A library that talks too much. It has a level of its own, and its parts, whose names begin with
its name and a dot, have the same. -/
def isChatty (library : String) : Bool :=
  library == "asyncio" || "asyncio.".toList.isPrefixOf library.toList

/-- The level below which nothing is heard of a library, or of the program itself. -/
def levelFor (settings : LogSettings) (library : Option String) : Level :=
  if library.any isChatty then .warning else settings.level

/-- The least level of an output. -/
def threshold (settings : LogSettings) (output : LogOutput) : Level :=
  output.level.getD settings.level

/-- Does a message reach the outputs at all? -/
def isHeard (settings : LogSettings) (m : Message) : Bool :=
  m.level.reaches (levelFor settings m.library)

/-- The lines that a message makes, each with its output, in the order of the outputs. -/
def deliver (settings : LogSettings) (m : Message) (time : String) (request : Option String) :
    List (LogOutput × Line) :=
  if isHeard settings m then
    (settings.outputs.filter fun o => m.level.reaches (threshold settings o)).map fun o =>
      (o, .of o.format (m.stamped time request))
  else []

/-- The line that a message makes when there is no output. -/
def lastResort (settings : LogSettings) (m : Message) (time : String) (request : Option String) :
    Option Line :=
  if isHeard settings m && m.level.reaches .warning then some (.text (m.bare time request))
  else none

/-- Before the log is set up, the program's own records go to the standard output stream, without
request ids, and warnings of libraries to the standard error stream. -/
def deliverEarly (m : Message) (time : String) : Option (String × Line) :=
  match m.library with
  | none => some ("stdout", .text (console alignedColumns (m.stamped time none)))
  | some _ => if m.level.reaches .warning then some ("stderr", .text (m.bare time none)) else none

/-! ## Files -/

/-- A destination by the file it leads to: `..` goes back by one name. -/
def fileOf (destination : String) : String :=
  let path := Settings.Path.ofChars destination.toList
  let names := path.names.foldl (fun names name =>
    if name == ['.', '.'] then names.dropLast else names ++ [name]) []
  String.ofList (Settings.Path.toChars { path with names })

def isStream (destination : String) : Bool :=
  destination == "stderr" || destination == "stdout"

/-- The stream or file of a destination. -/
def target (destination : String) : String :=
  if isStream destination then destination else fileOf destination

structure Journal where
  /-- Before the log is set up there are no settings. -/
  settings : Option LogSettings := none
  /-- The files that were opened. -/
  files : List String := []
  /-- What was written since the last report, by stream or file. -/
  news : Entries String (List Line) := []

namespace Journal

/-- Opens the file of an output. A file that is new is reported even if it stays empty. -/
def openFile (j : Journal) (file : String) : Journal :=
  if j.files.contains file then j
  else { j with files := j.files ++ [file], news := j.news.put file [] }

/-- Sets up the log. -/
def configure (j : Journal) (settings : LogSettings) : Journal :=
  let paths := (settings.outputs.map LogOutput.destination).filter fun d => !isStream d
  (paths.map fileOf).foldl openFile { j with settings := some settings }

def write (j : Journal) (target : String) (line : Line) : Journal :=
  { j with news := j.news.put target ((j.news.get? target).getD [] ++ [line]) }

/-- Writes a message to everywhere it goes. -/
def log (j : Journal) (time : String) (request : Option String) (m : Message) : Journal :=
  match j.settings with
  | none =>
    match deliverEarly m time with
    | some (target, line) => j.write target line
    | none => j
  | some settings =>
    if settings.outputs.isEmpty then
      match lastResort settings m time request with
      | some line => j.write "stderr" line
      | none => j
    else (deliver settings m time request).foldl
      (fun j (output, line) => j.write (target output.destination) line) j

/-- The report and the journal after it. -/
def report (j : Journal) : Entries String (List Line) × Journal :=
  (j.news, { j with news := [] })

end Journal

end PerlSymbols.Log
