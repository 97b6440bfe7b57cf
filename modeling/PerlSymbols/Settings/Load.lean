import PerlSymbols.Settings.Check
import PerlSymbols.Settings.Environment
import PerlSymbols.Yaml

/-!
# Loading settings

Settings come from a file for all workspaces, a file in the workspace, the environment, and the
caller. Each later source is laid over the earlier ones, and the result is checked.
-/

namespace PerlSymbols.Settings

inductive Contents where
  | text (s : String)
  /-- Reading the file comes to octets that are no text. -/
  | undecodable

instance : Coe String Contents := ⟨Contents.text⟩

/-- A settings file; without contents the file does not exist. -/
structure File where
  path : String
  contents : Option Contents

structure Sources where
  home : Homes
  /-- The file for all workspaces. -/
  shared : File
  workspace : File
  environment : Environment := []
  overrides : Entries Key Value := []

inductive LoadFailure where
  /-- A file that does not follow the grammar. -/
  | malformedFile (path : String)
  | undecodable
  /-- A file with a value that cannot be made. -/
  | misread (e : Yaml.Failure)
  /-- A file that holds something else than settings, or a setting that is not accepted. -/
  | problem (p : Problem)
  /-- A section of the environment that cannot be read. -/
  | environment (name : String)
  /-- A section whose name is no text. -/
  | nameNotText
  | unknownHome
  /-- A setting that is not accepted, and that has no text to be reported with. -/
  | unwritable

def LoadFailure.message : LoadFailure → String
  | .misread e => e.message
  | .environment name =>
    s!"error parsing value for field \"{name}\" from source \"EnvSettingsSource\""
  | .unknownHome => "Could not determine home directory."
  | .unwritable => Decimal.limitMessage ""
  | .problem p => p.text
  | .malformedFile _ | .undecodable | .nameNotText => ""

/-- What a source has under a name, and whether that counts as a value. -/
def lookUp (entries : Entries Key Value) (name : String) : Value × Bool :=
  match entries.get? (.text name) with
  | some .null | none => (.null, false)
  | some v => (v, true)

/-- The settings of a file. What does not count as given is no settings at all. -/
def File.read (file : File) (yaml : String → Except Yaml.Failure Value := Yaml.read) :
    Except LoadFailure (Entries Key Value) :=
  match file.contents with
  | none => .ok []
  | some .undecodable => .error .undecodable
  | some (.text text) =>
    match yaml text with
    | .error .malformed => .error (.malformedFile file.path)
    | .error e => .error (.misread e)
    | .ok (.map entries) => .ok entries
    | .ok v =>
      if v.isGiven then
        .error (.problem (.unreadable file.path "top level must be a mapping"))
      else .ok []

/-- The value for a section among the overrides: under its name, or else under a name that differs
in capitals only. -/
def overrideOf? (overrides : Entries Key Value) (name : String) : Option Value :=
  (overrides.get? (.text name)).or <| overrides.findSome? fun (k, v) =>
    match k with
    | .text s => if s.toLower == name then some v else none
    | _ => none

/-- The overrides with the sections first, under their names. -/
def foldOverrides (overrides : Entries Key Value) : Entries Key Value :=
  let sections := sectionNames.filterMap fun name =>
    (overrideOf? overrides name).map fun v => (Key.text name, v)
  let others := overrides.filter fun (k, _) => match k with
    | .text s => !sectionNames.contains s.toLower
    | _ => true
  sections ++ others

/-- All settings, laid over each other. -/
def Sources.combined (s : Sources) (yaml : String → Except Yaml.Failure Value := Yaml.read) :
    Except LoadFailure (Entries Key Value) := do
  let shared ← s.shared.read yaml
  let workspace ← s.workspace.read yaml
  let environment ← s.environment.settings.mapError .environment
  let upper := merge environment (foldOverrides s.overrides)
  return merge (merge shared workspace) upper

def isTextKey : Key → Bool
  | .text _ => true
  | _ => false

/-- The problem with the first value that is not accepted. -/
def Complaint.toProblem (c : Complaint) : Problem :=
  .invalidValue (".".intercalate c.path) c.input c.fault.message

/-- A problem quotes the value that is not accepted. -/
def Complaint.toFailure (c : Complaint) : LoadFailure :=
  if c.input.isWritable then .problem c.toProblem else .unwritable

/-- Loads and checks all settings. Files are read by `yaml`. -/
def load (s : Sources) (yaml : String → Except Yaml.Failure Value := Yaml.read) :
    Except LoadFailure Settings := do
  let entries ← s.combined yaml
  if !entries.all (isTextKey ·.1) then throw .nameNotText
  match checkStrictly s.home entries with
  | .accepted settings => return settings
  | .refused (c :: _) => throw c.toFailure
  | .refused [] => throw .nameNotText
  | .homeless => throw .unknownHome

end PerlSymbols.Settings
