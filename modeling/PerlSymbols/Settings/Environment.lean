import PerlSymbols.Settings.Merge
import PerlSymbols.Text.Search
import PerlSymbols.Value.Json

/-!
# Settings in the environment

A variable with the name of a section holds that section in JSON. A variable with further names
behind it holds one value as text; the list of outputs is in JSON again. Names are separated by two
underscores, and capitals do not count.
-/

namespace PerlSymbols.Settings

/-- The variables of an environment, in order. -/
abbrev Environment := List (String × String)

/-- What the names of all variables start with. -/
def variableStart : List Char := "perlscope__".toList

/-- A section and how its fields are written in a variable of their own. -/
structure SectionForm where
  name : String
  fields : List String
  /-- Fields that hold JSON, and nothing else. -/
  encoded : List (List String) := []
  /-- Fields that hold JSON where it can be read. -/
  perhapsEncoded : List (List String) := []

def logForm : SectionForm where
  name := "logging"
  fields := ["level", "outputs"]
  encoded := [["outputs"]]
  perhapsEncoded := [["outputs", "level"]]

def indexForm : SectionForm where
  name := "index"
  fields := ["poll_interval_sec", "max_retries"]

/-- Variables by their names in small letters; of two names that differ in capitals only, the last
value counts. -/
def Environment.folded (env : Environment) : Entries String String :=
  Entries.ofList (env.map fun (name, v) => (name.toLower, v))

/-- The pieces of a text between double underscores. -/
def nameParts (fuel : Nat) (cs : List Char) : List String :=
  match fuel with
  | 0 => [String.ofList cs]
  | fuel + 1 =>
    match Text.splitFirst? ['_', '_'] cs with
    | some (first, rest) => String.ofList first :: nameParts fuel rest
    | none => [String.ofList cs]

/-- Puts a value at the end of a path. What is no map on the way stays, and the value is lost. -/
def putAt (entries : Entries Key Value) : List String → Value → Entries Key Value
  | [], _ => entries
  | [name], v => entries.put (.text name) v
  | name :: path, v =>
    match entries.get? (.text name) with
    | none => entries.put (.text name) (.map (putAt [] path v))
    | some (.map inner) => entries.put (.text name) (.map (putAt inner path v))
    | some _ => entries

/-- The value of a variable for a field; `none` where it must be JSON and is not. An empty text is
never JSON. -/
def fieldValue? (form : SectionForm) (path : List String) (text : String) : Option Value :=
  if text.isEmpty then some (.text text)
  else if form.encoded.contains path then Json.parse? text
  else if form.perhapsEncoded.contains path then some ((Json.parse? text).getD (.text text))
  else some (.text text)

/-- What the variables for single fields make of a section. -/
def fieldsOf (form : SectionForm) (env : Entries String String) : Option (Entries Key Value) :=
  let start := variableStart ++ form.name.toList ++ ['_', '_']
  env.foldlM (fun entries (name, text) => do
    match Text.after? start name.toList with
    | some rest =>
      let path := nameParts rest.length rest
      return putAt entries path (← fieldValue? form path text)
    | none => return entries) []

/-- Keys that differ from a field in capitals only are that field. -/
def foldFieldNames (form : SectionForm) (entries : Entries Key Value) : Entries Key Value :=
  entries.foldl (fun acc (k, v) =>
    let name := match k with
      | .text s => form.fields.find? fun field => field == s.toLower
      | _ => none
    match name with
    | some field => acc.put (.text field) v
    | none => acc.put k v) []

/-- The section that the environment gives, if it gives one, and `.error` where it cannot be
read. A section that is no map hides the variables for its fields, and null counts as no section. -/
def sectionOf (form : SectionForm) (env : Entries String String) :
    Except String (Option Value) :=
  match env.get? (String.ofList (variableStart ++ form.name.toList)) with
  | some text =>
    match Json.parse? text, fieldsOf form env with
    | some (.map entries), some fields =>
      .ok (some (.map (foldFieldNames form (merge entries fields))))
    | some (.map _), none | none, _ => .error form.name
    | some .null, _ => .ok none
    | some v, _ => .ok (some v)
  | none =>
    match fieldsOf form env with
    | some [] => .ok none
    | some fields => .ok (some (.map (foldFieldNames form fields)))
    | none => .error form.name

/-- All settings of an environment; the error names the section that cannot be read. -/
def Environment.settings (env : Environment) : Except String (Entries Key Value) := do
  let env := env.folded
  let logging ← sectionOf logForm env
  let index ← sectionOf indexForm env
  return (logging.map fun v => (Key.text logForm.name, v)).toList
    ++ (index.map fun v => (Key.text indexForm.name, v)).toList

end PerlSymbols.Settings
