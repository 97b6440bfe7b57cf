import PerlSymbols.Entries
import PerlSymbols.Log.Level
import PerlSymbols.Settings
import PerlSymbols.Trace
import PerlSymbols.Value.Json

/-!
# Lines of a log

A record becomes one entry per field, the event among them. Level, time and request id are put over
fields of the same name. A line is either the entries in JSON, or a text for people: time, level
and event, then the other entries by name.
-/

namespace PerlSymbols.Log

/-- What is written, before it is laid out. -/
structure Message where
  level : Level
  entries : Entries String Value
  /-- The library that wrote it; `none` for the program itself. -/
  library : Option String := none

/-- A record of the program itself. -/
def Message.ofRecord (r : Record) : Message where
  level := r.level
  entries := (Entries.ofList r.fields).put "event" (.text r.event)

/-- A message of a library, which is nothing but a text. -/
def Message.ofLibrary (library : String) (level : Level) (text : String) : Message where
  level
  entries := [("event", .text text)]
  library := some library

/-- The entries with level, time and request id. -/
def Message.stamped (m : Message) (time : String) (request : Option String) :
    Entries String Value :=
  let entries := (m.entries.put "level" (.text m.level.word)).put "timestamp" (.text time)
  match request with
  | some id => entries.put "request_id" (.text id)
  | none => entries

inductive Line where
  | json (entries : Entries String Value)
  | text (s : String)

/-- The text of a line. -/
def Line.write : Line → String
  | .json entries => Json.write (.record entries)
  | .text s => s

/-! ## Lines for people -/

/-- A text that holds one of these is quoted. -/
def needsQuotes (c : Char) : Bool :=
  [' ', '\t', '=', '\r', '\n', '"', '\x27'].contains c

/-- The value of an entry in a line for people. -/
def shown : Value → String
  | .text s => if s.toList.any needsQuotes then Text.quoted s else s
  | v => v.quoted

/-- An entry that is shown without its name: what stands around it, and its least width. -/
structure Column where
  name : String
  before : String := ""
  after : String := ""
  width : Nat := 0

def padRight (width : Nat) (s : String) : String :=
  s ++ String.ofList (List.replicate (width - s.length) ' ')

def Column.show (c : Column) (v : Value) : String :=
  c.before ++ padRight c.width v.written ++ c.after

/-- The entries that come first, in order. -/
def columns (levelWidth eventWidth : Nat) : List Column :=
  [{ name := "timestamp" }, { name := "level", before := "[", after := "]", width := levelWidth },
    { name := "event", width := eventWidth }, { name := "logger", before := "[", after := "]" },
    { name := "logger_name", before := "[", after := "]" }]

/-- The columns of an output. -/
def plainColumns : List Column :=
  columns 0 0

/-- The columns in use before the log is set up. -/
def alignedColumns : List Column :=
  columns 9 30

def trimEnd (s : String) : String :=
  String.ofList (s.toList.reverse.dropWhile (· == ' ')).reverse

/-- The line for people. Empty parts are left out. -/
def console (columns : List Column) (entries : Entries String Value) : String :=
  let first := columns.filterMap fun c => (entries.get? c.name).map c.show
  let others := (entries.filter fun (name, _) => !(columns.map Column.name).contains name).mergeSort
    fun a b => a.1 ≤ b.1
  let parts := first ++ others.map fun (name, v) => name ++ "=" ++ shown v
  trimEnd (" ".intercalate (parts.filter fun part => !part.isEmpty))

/-- A line in the format of an output. -/
def Line.of : LogFormat → Entries String Value → Line
  | .json, entries => .json entries
  | .console, entries => .text (console plainColumns entries)

/-- The line for a message that no output takes: the bare text of a library, and all entries of
the program's own records. -/
def Message.bare (m : Message) (time : String) (request : Option String) : String :=
  match m.library with
  | some _ => ((m.entries.get? "event").map Value.written).getD ""
  | none => (Value.record (m.stamped time request)).quoted

end PerlSymbols.Log
