import PerlSymbols.Decimal.Reading
import PerlSymbols.Log.Level
import PerlSymbols.Problem
import PerlSymbols.Value

/-!
# Settings

What can be configured: how much is logged and where to, and how long a request waits for a
document that is not indexed yet.
-/

namespace PerlSymbols

inductive LogFormat where
  | json
  | console
  deriving DecidableEq

def LogFormat.name : LogFormat → String
  | .json => "json"
  | .console => "console"

def LogFormat.all : List LogFormat :=
  [.json, .console]

/-- One place that log records go to. -/
structure LogOutput where
  format : LogFormat := .console
  /-- One of the two standard streams, or the path of a file. -/
  destination : String := "stderr"
  /-- Without a level of its own, an output has the one of all logging. -/
  level : Option Log.Level := none
  deriving DecidableEq

structure LogSettings where
  level : Log.Level := .info
  outputs : List LogOutput := [{}]
  deriving DecidableEq

structure IndexSettings where
  /-- Seconds between two looks for a document. -/
  interval : Float := 0.1
  retries : Int := 100

structure Settings where
  logging : LogSettings := {}
  index : IndexSettings := {}

/-- How long a request waits for a document at most, in seconds. -/
def IndexSettings.waitTimeout (s : IndexSettings) : Except NumberError Float :=
  match Decimal.ofInt? s.retries with
  | some n => .ok (s.interval * n)
  | none => .error .tooLarge

/-! ## As values -/

def LogOutput.toValue (o : LogOutput) : Value :=
  .record [("format", .text o.format.name), ("destination", .text o.destination),
    ("level", match o.level with
      | some level => .text level.name
      | none => .null)]

def LogSettings.toValue (s : LogSettings) : Value :=
  .record [("level", .text s.level.name), ("outputs", .list (s.outputs.map LogOutput.toValue))]

def IndexSettings.toValue (s : IndexSettings) : Value :=
  .record [("poll_interval_sec", .float s.interval), ("max_retries", .int s.retries)]

def Settings.toEntries (s : Settings) : Entries Key Value :=
  [(.text "logging", s.logging.toValue), (.text "index", s.index.toValue)]

def Settings.toValue (s : Settings) : Value :=
  .map s.toEntries

end PerlSymbols
