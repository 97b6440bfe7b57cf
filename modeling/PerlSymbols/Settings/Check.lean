import PerlSymbols.Decimal.Written
import PerlSymbols.Settings
import PerlSymbols.Settings.Destination
import PerlSymbols.Settings.Number

/-!
# Checking settings

Fields are checked in the order of the structures. A field that is not given has its default, and
keys that are no fields do not count.
-/

namespace PerlSymbols.Settings

/-! ## Fields -/

/-- One of several texts. -/
def checkChoice {α : Type} (choices : List α) (name : α → String) (v : Value) : Checked α :=
  let found := match v with
    | .text s => choices.find? fun a => name a == s
    | _ => none
  match found with
  | some a => .accepted a
  | none => .refuse (.notOneOf (choices.map name)) v

def checkFormat : Value → Checked LogFormat :=
  checkChoice LogFormat.all LogFormat.name

def checkLevel : Value → Checked Log.Level :=
  checkChoice Log.Level.all Log.Level.name

/-- An output may have no level. -/
def checkOutputLevel : Value → Checked (Option Log.Level)
  | .null => .accepted none
  | v => (checkLevel v).map some

def checkDestination (homes : Homes) (v : Value) : Checked String :=
  match v with
  | .text s =>
    match destination homes s with
    | .ok path => .accepted path
    | .error .relative => .refuse (.rule s!"File destination must be absolute path: {s}") v
    | .error .nullInName => .refuse (.rule "embedded null byte") v
    | .error .unknownHome => .homeless
  | _ => .refuse .notText v

/-- Only what is known not to be positive is refused. -/
def checkInterval (v : Value) : Checked Float :=
  (checkNumber v).require v fun x =>
    if x ≤ 0.0 then some ("Poll interval must be positive, got " ++ Decimal.written x) else none

def checkRetries (v : Value) : Checked Int :=
  (checkWhole v).require v fun n =>
    if n < 1 then
      some (if Decimal.isOversized n then Decimal.limitMessage ""
        else s!"Max retries must be at least 1, got {n}")
    else none

/-! ## Sections -/

/-- A field of a map, and its default where it is not given. -/
def checkField {α : Type} (entries : Entries Key Value) (name : String) (default : α)
    (check : Value → Checked α) : Checked α :=
  match entries.get? (.text name) with
  | some v => (check v).under name
  | none => .accepted default

/-- The map of a section. -/
def checkSection {α : Type} (name : String) (check : Entries Key Value → Checked α)
    (v : Value) : Checked α :=
  match v with
  | .map entries => check entries
  | _ => .refuse (.notSection name) v

def checkOutputFields (homes : Homes) (entries : Entries Key Value) : Checked LogOutput :=
  let start : LogOutput := {}
  ((checkField entries "format" start.format checkFormat).both Prod.mk
    (checkField entries "destination" start.destination (checkDestination homes))).both
    (fun (format, destination) level => { format, destination, level })
    (checkField entries "level" start.level checkOutputLevel)

/-- The items of a list; complaints name their number. -/
def checkItems {α : Type} (check : Value → Checked α) : Nat → List Value → Checked (List α)
  | _, [] => .accepted []
  | i, v :: rest => ((check v).under (toString i)).both List.cons (checkItems check (i + 1) rest)

def checkOutputs (homes : Homes) (v : Value) : Checked (List LogOutput) :=
  match v with
  | .list items => checkItems (checkSection "LogOutputConfig" (checkOutputFields homes)) 0 items
  | _ => .refuse .notList v

def checkLogFields (homes : Homes) (entries : Entries Key Value) : Checked LogSettings :=
  let start : LogSettings := {}
  (checkField entries "level" start.level checkLevel).both (fun level outputs => { level, outputs })
    (checkField entries "outputs" start.outputs (checkOutputs homes))

def checkIndexFields (entries : Entries Key Value) : Checked IndexSettings :=
  let start : IndexSettings := {}
  (checkField entries "poll_interval_sec" start.interval checkInterval).both
    (fun interval retries => { interval, retries })
    (checkField entries "max_retries" start.retries checkRetries)

/-- All settings. -/
def checkAll (homes : Homes) (entries : Entries Key Value) : Checked Settings :=
  let start : Settings := {}
  (checkField entries "logging" start.logging
    (checkSection "LoggingConfig" (checkLogFields homes))).both
    (fun logging index => { logging, index })
    (checkField entries "index" start.index (checkSection "IndexConfig" checkIndexFields))

/-- The names of the sections. -/
def sectionNames : List String :=
  ["logging", "index"]

/-- Complaints about keys that are no sections. -/
def checkNames (entries : Entries Key Value) : Checked Unit :=
  let strangers := entries.filter fun (k, _) => !(sectionNames.map Key.text).contains k
  match strangers with
  | [] => .accepted ()
  | strangers => .refused (strangers.map fun (k, v) => ⟨[k.toValue.written], .unknownKey, v⟩)

/-- All settings, where no other keys may stand beside the sections. -/
def checkStrictly (homes : Homes) (entries : Entries Key Value) : Checked Settings :=
  (checkAll homes entries).both (fun settings _ => settings) (checkNames entries)

end PerlSymbols.Settings
