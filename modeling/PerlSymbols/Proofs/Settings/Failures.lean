import PerlSymbols.Proofs.Settings.Sources

/-!
# Failures that are not reported

Settings that cannot be read or are not accepted are reported as such. Some failures take another
way: a file whose octets are no text, a scalar that has the form of a number or a date and is none, a
variable that is no JSON, a section whose name is no text, a home directory that is not known, and a
refused number that is too long to be reported. Here is exactly when, whatever reads the files.
-/

namespace PerlSymbols.Settings

open Entries

/-- The failure is reported as a problem with the settings. -/
def LoadFailure.isReported : LoadFailure → Bool
  | .malformedFile _ | .problem _ => true
  | .undecodable | .misread _ | .environment _ | .nameNotText | .unknownHome | .unwritable => false

/-- Ends with a failure that is not reported. -/
def Escapes {α : Type} (x : Except LoadFailure α) : Prop :=
  ∃ e, x = .error e ∧ e.isReported = false

section Escapes

variable {α β : Type}

@[simp]
theorem escapes_ok (a : α) : Escapes (.ok a) ↔ False := by
  simp [Escapes]

@[simp]
theorem escapes_error (e : LoadFailure) :
    Escapes (.error e : Except LoadFailure α) ↔ e.isReported = false := by
  simp [Escapes]

@[simp]
theorem escapes_pure (a : α) : Escapes (pure a) ↔ False :=
  escapes_ok a

@[simp]
theorem escapes_throw (e : LoadFailure) :
    Escapes (throw e : Except LoadFailure α) ↔ e.isReported = false :=
  escapes_error e

instance (x : Except LoadFailure α) : Decidable (Escapes x) :=
  match x with
  | .ok a => .isFalse (by simp)
  | .error e => decidable_of_iff (e.isReported = false) (escapes_error e).symm

theorem escapes_bind {x : Except LoadFailure α} {f : α → Except LoadFailure β} :
    Escapes (x >>= f) ↔ Escapes x ∨ ∃ a, x = .ok a ∧ Escapes (f a) := by
  cases x with
  | ok a => simp [bind, Except.bind]
  | error e => simp [bind, Except.bind]

end Escapes

/-! ## Checks -/

namespace Checked

variable {α β γ : Type}

/-- A refusal has a complaint. -/
def Complains (x : Checked α) : Prop :=
  x ≠ .refused []

theorem complains_accepted (a : α) : Complains (.accepted a) := by
  simp [Complains]

theorem complains_refuse (fault : Fault) (input : Value) :
    Complains (refuse fault input : Checked α) := by
  simp [Complains, refuse]

theorem Complains.both {x : Checked α} {y : Checked β} (hx : x.Complains) (hy : y.Complains)
    (f : α → β → γ) : (x.both f y).Complains := by
  unfold Complains at *
  cases x <;> cases y <;> simp_all [Checked.both]

theorem Complains.under {x : Checked α} (h : x.Complains) (name : String) :
    (x.under name).Complains := by
  unfold Complains at *
  cases x <;> simp_all [Checked.under]

@[simp]
theorem both_eq_homeless {f : α → β → γ} {x : Checked α} {y : Checked β} :
    x.both f y = .homeless ↔ x = .homeless ∨ y = .homeless := by
  cases x <;> cases y <;> simp [Checked.both]

@[simp]
theorem under_eq_homeless {x : Checked α} {name : String} :
    x.under name = .homeless ↔ x = .homeless := by
  cases x <;> simp [Checked.under]

@[simp]
theorem refuse_ne_homeless (fault : Fault) (input : Value) :
    (refuse fault input : Checked α) ≠ .homeless := by
  simp [refuse]

/-- Looks for no home directory, and refuses with a complaint. -/
structure Plain (x : Checked α) : Prop where
  complains : x.Complains
  ne_homeless : x ≠ .homeless

theorem plain_accepted (a : α) : Plain (.accepted a) :=
  ⟨complains_accepted a, by simp⟩

theorem plain_refuse (fault : Fault) (input : Value) : Plain (refuse fault input : Checked α) :=
  ⟨complains_refuse fault input, refuse_ne_homeless fault input⟩

theorem Plain.map {x : Checked α} (h : x.Plain) (f : α → β) : (x.map f).Plain := by
  obtain ⟨hc, hn⟩ := h
  unfold Complains at hc
  cases x with
  | accepted a => exact plain_accepted (f a)
  | refused cs => exact ⟨by simpa [Complains, Checked.map] using hc, by simp [Checked.map]⟩
  | homeless => exact absurd rfl hn

theorem Plain.require {x : Checked α} (h : x.Plain) (input : Value)
    (complaint? : α → Option String) : (x.require input complaint?).Plain := by
  unfold Checked.require
  split
  · split
    · exact plain_refuse _ input
    · exact plain_accepted _
  · exact h

end Checked

open Checked

theorem plain_checkChoice {α : Type} (choices : List α) (name : α → String) (v : Value) :
    (checkChoice choices name v).Plain := by
  unfold checkChoice
  dsimp only
  split
  · exact plain_accepted _
  · exact plain_refuse _ v

theorem plain_checkOutputLevel (v : Value) : (checkOutputLevel v).Plain := by
  unfold checkOutputLevel
  split
  · exact plain_accepted none
  · exact (plain_checkChoice _ _ v).map some

theorem plain_checkWhole (v : Value) : (checkWhole v).Plain := by
  unfold checkWhole
  repeat' split
  all_goals first
    | exact plain_accepted _
    | exact plain_refuse _ _

theorem plain_checkNumber (v : Value) : (checkNumber v).Plain := by
  unfold checkNumber
  repeat' split
  all_goals first
    | exact plain_accepted _
    | exact plain_refuse _ _

theorem plain_checkRetries (v : Value) : (checkRetries v).Plain :=
  (plain_checkWhole v).require v _

theorem plain_checkInterval (v : Value) : (checkInterval v).Plain :=
  (plain_checkNumber v).require v _

theorem plain_checkNames (entries : Entries Key Value) : (checkNames entries).Plain := by
  unfold checkNames
  dsimp only
  split
  · exact plain_accepted ()
  · next hne => exact ⟨by simpa [Complains] using hne, by simp⟩

/-! ## Looking for a home directory -/

/-- Nothing that can be a home directory is known for a user who may exist. -/
def Homes.Lacks (homes : Homes) (user : List Char) : Prop :=
  '\x00' ∉ user ∧
    ∀ home, homes.find? (String.ofList user) = some home → home.toList.head? = some '~'

theorem Homes.locate_eq_unknownHome_iff (homes : Homes) (user : List Char) :
    homes.locate user = .error .unknownHome ↔ homes.Lacks user := by
  unfold locate Lacks
  by_cases hnull : '\x00' ∈ user
  · simp [hnull]
  · cases homes.find? (String.ofList user) with
    | none => simp [hnull]
    | some home => by_cases htilde : home.toList.head? = some '~' <;> simp [hnull, htilde]

/-- The text is a path below the home directory of a user who has none. -/
def NamesUnknown (homes : Homes) (text : String) : Prop :=
  ∃ user names, Path.ofChars text.toList = ⟨0, ('~' :: user) :: names⟩ ∧ homes.Lacks user

theorem expand_eq_unknownHome_iff (homes : Homes) (path : Path) :
    Path.expand homes path = .error .unknownHome ↔
      ∃ user names, path = ⟨0, ('~' :: user) :: names⟩ ∧ homes.Lacks user := by
  obtain ⟨root, names⟩ := path
  unfold Path.expand
  split
  · next user names hroot hnames =>
    simp only [] at hroot hnames
    subst hroot hnames
    have hsame : (∃ user' names', (⟨0, ('~' :: user) :: names⟩ : Path) =
        ⟨0, ('~' :: user') :: names'⟩ ∧ homes.Lacks user') ↔ homes.Lacks user := by
      simp
    rw [hsame, ← homes.locate_eq_unknownHome_iff]
    cases homes.locate user <;> simp [bind, Except.bind, pure, Except.pure]
  · next hother =>
    simp only [reduceCtorEq, false_iff]
    rintro ⟨user, names, he, -⟩
    cases he
    exact hother _ _ rfl rfl

theorem destination_eq_unknownHome_iff (homes : Homes) (text : String) :
    destination homes text = .error .unknownHome ↔ NamesUnknown homes text := by
  unfold destination NamesUnknown
  split
  · next hstream =>
    have hpath : ∀ stream ∈ ["stderr", "stdout"],
        (Path.ofChars stream.toList).names.head?.any (·.head? == some '~') = false := by
      decide +kernel
    simp only [reduceCtorEq, false_iff]
    rintro ⟨user, names, he, -⟩
    have := hpath text (by simpa using hstream)
    simp [he] at this
  · rw [← expand_eq_unknownHome_iff]
    cases Path.expand homes (.ofChars text.toList) with
    | error e => simp [bind, Except.bind]
    | ok path =>
      simp only [bind, Except.bind, reduceCtorEq, iff_false]
      split <;> simp [pure, Except.pure, throw, throwThe, MonadExceptOf.throw]

theorem checkField_eq_homeless {α : Type} {entries : Entries Key Value} {name : String}
    {default : α} {check : Value → Checked α} :
    checkField entries name default check = .homeless ↔
      ∃ v, entries.get? (.text name) = some v ∧ check v = .homeless := by
  unfold checkField
  cases entries.get? (.text name) <;> simp

theorem checkSection_eq_homeless {α : Type} {name : String} {check : Entries Key Value → Checked α}
    {v : Value} :
    checkSection name check v = .homeless ↔ ∃ m, v = .map m ∧ check m = .homeless := by
  cases v <;> simp [checkSection]

theorem checkDestination_eq_homeless {homes : Homes} {v : Value} :
    checkDestination homes v = .homeless ↔ ∃ text, v = .text text ∧ NamesUnknown homes text := by
  cases v with
  | text s =>
    simp only [checkDestination, Value.text.injEq, exists_eq_left',
      ← destination_eq_unknownHome_iff homes]
    cases destination homes s with
    | ok path => simp
    | error e => cases e <;> simp
  | null | bool | int | float | stamp | list | map => simp [checkDestination]

theorem checkItems_eq_homeless {α : Type} {check : Value → Checked α} {i : Nat}
    {items : List Value} :
    checkItems check i items = .homeless ↔ ∃ item ∈ items, check item = .homeless := by
  induction items generalizing i with
  | nil => simp [checkItems]
  | cons item rest ih => simp [checkItems, ih]

/-- An output for a file in a home directory that is not known. -/
def IsElsewhere (homes : Homes) (output : Value) : Prop :=
  ∃ text, output.field? "destination" = some (.text text) ∧ NamesUnknown homes text

theorem checkOutput_eq_homeless {homes : Homes} {output : Value} :
    checkSection "LogOutputConfig" (checkOutputFields homes) output = .homeless ↔
      IsElsewhere homes output := by
  have hformat := fun v => (plain_checkChoice LogFormat.all LogFormat.name v).ne_homeless
  have hlevel := fun v => (plain_checkOutputLevel v).ne_homeless
  cases output with
  | map m =>
    simp only [checkSection, checkOutputFields, both_eq_homeless, checkField_eq_homeless,
      checkFormat, hformat, hlevel, checkDestination_eq_homeless, IsElsewhere, Value.field?]
    simp
  | null | bool | int | float | text | stamp | list =>
    simp [checkSection, IsElsewhere, Value.field?]

theorem checkOutputs_eq_homeless {homes : Homes} {v : Value} :
    checkOutputs homes v = .homeless ↔
      ∃ items, v = .list items ∧ ∃ item ∈ items, IsElsewhere homes item := by
  cases v with
  | list items => simp [checkOutputs, checkItems_eq_homeless, checkOutput_eq_homeless]
  | null | bool | int | float | text | stamp | map => simp [checkOutputs]

/-- Only an output looks for a home directory. -/
theorem checkStrictly_eq_homeless {homes : Homes} {entries : Entries Key Value} :
    checkStrictly homes entries = .homeless ↔
      ∃ items, valueAt (.map entries) [.text "logging", .text "outputs"] = some (.list items) ∧
        ∃ item ∈ items, IsElsewhere homes item := by
  have hlevel := fun v => (plain_checkChoice Log.Level.all Log.Level.name v).ne_homeless
  have hinterval := fun v => (plain_checkInterval v).ne_homeless
  have hretries := fun v => (plain_checkRetries v).ne_homeless
  have hnames := (plain_checkNames entries).ne_homeless
  simp only [checkStrictly, checkAll, both_eq_homeless, checkField_eq_homeless,
    checkSection_eq_homeless, checkLogFields, checkIndexFields, checkLevel, hlevel, hinterval,
    hretries, hnames, checkOutputs_eq_homeless]
  cases hlogging : entries.get? (.text "logging") with
  | none => simp [valueAt, Key.getAlike?_text, hlogging]
  | some v =>
    cases v with
    | map m =>
      simp only [valueAt, Key.getAlike?_text, hlogging]
      cases ho : Entries.get? m (.text "outputs") <;> simp [ho]
    | null | bool | int | float | text | stamp | list =>
      simp [valueAt, Key.getAlike?_text, hlogging]

/-! ## Refusals -/

theorem complains_checkField {α : Type} {check : Value → Checked α} (h : ∀ v, (check v).Complains)
    {entries : Entries Key Value} {name : String} {default : α} :
    (checkField entries name default check).Complains := by
  unfold checkField
  split
  · exact (h _).under name
  · exact complains_accepted default

theorem complains_checkSection {α : Type} {check : Entries Key Value → Checked α}
    (h : ∀ m, (check m).Complains) (name : String) (v : Value) :
    (checkSection name check v).Complains := by
  unfold checkSection
  split
  · exact h _
  · exact complains_refuse _ v

theorem complains_checkItems {α : Type} {check : Value → Checked α} (h : ∀ v, (check v).Complains)
    (i : Nat) (items : List Value) : (checkItems check i items).Complains := by
  induction items generalizing i with
  | nil => exact complains_accepted []
  | cons item rest ih => exact Complains.both ((h item).under _) (ih (i + 1)) _

theorem complains_checkDestination (homes : Homes) (v : Value) :
    (checkDestination homes v).Complains := by
  unfold checkDestination
  split
  · split
    · exact complains_accepted _
    · exact complains_refuse _ _
    · exact complains_refuse _ _
    · simp [Complains]
  · exact complains_refuse _ v

theorem complains_checkOutputs (homes : Homes) (v : Value) : (checkOutputs homes v).Complains := by
  unfold checkOutputs
  split
  · apply complains_checkItems
    apply complains_checkSection
    intro m
    have hformat := fun v => (plain_checkChoice LogFormat.all LogFormat.name v).complains
    have hlevel := fun v => (plain_checkOutputLevel v).complains
    exact Complains.both (Complains.both (complains_checkField hformat)
      (complains_checkField (complains_checkDestination homes)) _)
      (complains_checkField hlevel) _
  · exact complains_refuse _ v

/-- Settings that are refused are refused with a complaint. -/
theorem complains_checkStrictly (homes : Homes) (entries : Entries Key Value) :
    (checkStrictly homes entries).Complains := by
  have hlevel := fun v => (plain_checkChoice Log.Level.all Log.Level.name v).complains
  have hinterval := fun v => (plain_checkInterval v).complains
  have hretries := fun v => (plain_checkRetries v).complains
  have hlogging : ∀ m, (checkLogFields homes m).Complains := fun m =>
    Complains.both (complains_checkField hlevel)
      (complains_checkField (complains_checkOutputs homes)) _
  have hindex : ∀ m, (checkIndexFields m).Complains := fun m =>
    Complains.both (complains_checkField hinterval) (complains_checkField hretries) _
  have hall : (checkAll homes entries).Complains :=
    Complains.both (complains_checkField (complains_checkSection hlogging _))
      (complains_checkField (complains_checkSection hindex _)) _
  exact Complains.both hall (plain_checkNames entries).complains _

/-! ## Files and keys -/

section Files

variable (yaml : String → Except Yaml.Failure Value)

/-- The file has octets that are no text, or reading its text ends with something else than a value
or an error of the grammar. -/
def File.Misread (file : File) : Prop :=
  file.contents = some .undecodable ∨
    ∃ text e, file.contents = some (.text text) ∧ yaml text = .error e ∧ e ≠ .malformed

theorem escapes_read_iff (file : File) : Escapes (file.read yaml) ↔ file.Misread yaml := by
  unfold File.read File.Misread
  match file.contents with
  | none => simp
  | some .undecodable => simp [LoadFailure.isReported]
  | some (.text text) =>
    cases hread : yaml text with
    | error e => cases e <;> simp [hread, LoadFailure.isReported]
    | ok v =>
      cases v with
      | map m => simp [hread]
      | null | bool | int | float | text | stamp | list =>
        simp only [hread]
        split <;> simp [hread, LoadFailure.isReported]

end Files

theorem Environment.isTextKey_of_mem {env : Environment} {entries : Entries Key Value}
    (h : env.settings = .ok entries) {k : Key} (hk : k ∈ entries.keys) : isTextKey k = true := by
  unfold Environment.settings at h
  obtain ⟨logging, -, h⟩ := bind_eq_ok.mp h
  obtain ⟨index, -, h⟩ := bind_eq_ok.mp h
  cases h
  simp only [keys, List.map_append, List.mem_append, List.mem_map, Option.mem_toList,
    Option.map_eq_some_iff] at hk
  rcases hk with ⟨_, ⟨_, -, rfl⟩, rfl⟩ | ⟨_, ⟨_, -, rfl⟩, rfl⟩ <;> rfl

theorem respects_isTextKey : Key.Respects fun k => !isTextKey k := by
  refine Key.respects_of_const (b := true) fun k hk => ?_
  cases k with
  | text s => exact absurd rfl (hk s)
  | null | bool | int | float | stamp => rfl

/-- Overrides under names that are no texts stay as they are. -/
theorem mem_keys_foldOverrides {overrides : Entries Key Value} {k : Key}
    (hk : isTextKey k = false) :
    k ∈ (foldOverrides overrides).keys ↔ k ∈ overrides.keys := by
  unfold foldOverrides keys
  simp only [List.map_append, List.mem_append, List.mem_map, List.mem_filter, List.mem_filterMap,
    Option.map_eq_some_iff]
  constructor
  · rintro (⟨_, ⟨name, -, v, -, rfl⟩, rfl⟩ | ⟨entry, ⟨hmem, -⟩, rfl⟩)
    · cases hk
    · exact ⟨entry, hmem, rfl⟩
  · rintro ⟨⟨k, v⟩, hmem, rfl⟩
    refine Or.inr ⟨(k, v), ⟨hmem, ?_⟩, rfl⟩
    cases k with
    | text s => cases hk
    | null | bool | int | float | stamp => rfl

/-! ## Variables -/

/-- Some variable for a field must be JSON, and is not. -/
def SectionForm.Garbled (form : SectionForm) (env : Entries String String) : Prop :=
  ∃ entry ∈ env, ∃ rest,
    Text.after? (variableStart ++ form.name.toList ++ ['_', '_']) entry.1.toList = some rest ∧
    nameParts rest.length rest ∈ form.encoded ∧ entry.2 ≠ "" ∧ Json.parse? entry.2 = none

theorem fieldValue?_eq_none {form : SectionForm} {path : List String} {text : String} :
    fieldValue? form path text = none ↔
      path ∈ form.encoded ∧ text ≠ "" ∧ Json.parse? text = none := by
  unfold fieldValue?
  by_cases he : text = "" <;> by_cases hp : path ∈ form.encoded <;>
    by_cases hq : path ∈ form.perhapsEncoded <;> simp [he, hp, hq]

theorem fieldsOf_eq_none {form : SectionForm} {env : Entries String String} :
    fieldsOf form env = none ↔ form.Garbled env := by
  simp only [fieldsOf, SectionForm.Garbled, ← fieldValue?_eq_none]
  generalize ([] : Entries Key Value) = entries
  induction env generalizing entries with
  | nil => simp
  | cons entry env ih =>
    obtain ⟨name, text⟩ := entry
    simp only [List.foldlM_cons, List.exists_mem_cons_iff]
    cases hrest : Text.after? (variableStart ++ form.name.toList ++ ['_', '_']) name.toList with
    | none => simpa using ih entries
    | some rest =>
      cases hvalue : fieldValue? form (nameParts rest.length rest) text with
      | none => simp [hvalue]
      | some v => simpa [hvalue] using ih _

/-- The section of an environment cannot be read: its own variable is no JSON, or nothing hides the
variables of its fields and one of those is garbled. -/
def SectionForm.Unreadable (form : SectionForm) (env : Entries String String) : Prop :=
  match env.get? (String.ofList (variableStart ++ form.name.toList)) with
  | some text =>
    match Json.parse? text with
    | none => True
    | some (.map _) => form.Garbled env
    | some _ => False
  | none => form.Garbled env

theorem sectionOf_eq_error {form : SectionForm} {env : Entries String String} :
    (∃ name, sectionOf form env = .error name) ↔ form.Unreadable env := by
  unfold sectionOf SectionForm.Unreadable
  rw [← fieldsOf_eq_none]
  cases env.get? (String.ofList (variableStart ++ form.name.toList)) with
  | none =>
    rcases fieldsOf form env with _ | (_ | _) <;> simp
  | some text =>
    dsimp only
    cases Json.parse? text with
    | none => cases fieldsOf form env <;> simp
    | some v => cases v <;> cases fieldsOf form env <;> simp

/-- One of the two sections cannot be read. -/
def Environment.Unreadable (env : Environment) : Prop :=
  logForm.Unreadable env.folded ∨ indexForm.Unreadable env.folded

theorem Environment.settings_eq_error {env : Environment} :
    (∃ name, env.settings = .error name) ↔ env.Unreadable := by
  unfold Environment.settings Environment.Unreadable
  rw [← sectionOf_eq_error, ← sectionOf_eq_error]
  dsimp only
  cases sectionOf logForm env.folded with
  | error name => simp [bind, Except.bind]
  | ok logging =>
    cases sectionOf indexForm env.folded <;> simp [bind, Except.bind, pure, Except.pure]

/-! ## Loading -/

mutual

def depth : Value → Nat
  | .list items => depthOfItems items + 1
  | .map entries => depthOfEntries entries + 1
  | _ => 0

def depthOfItems : List Value → Nat
  | [] => 0
  | v :: rest => max (depth v) (depthOfItems rest)

def depthOfEntries : List (Key × Value) → Nat
  | [] => 0
  | (_, v) :: rest => max (depth v) (depthOfEntries rest)

end

/-- The stack has room for lists and maps that are nested so deep. -/
def nestingRoom : Nat := 200

/-- The JSON in the text does not go deeper than there is room, and every character in it is one of
Unicode. -/
def IsPlainJson (text : String) : Prop :=
  (text.toList.filter fun c => c == '[' || c == '\x7b').length ≤ nestingRoom ∧
    Text.occursIn ['\\', 'u', 'd'] (text.toList.map Char.toLower) = false

/-- The sources that are spoken of. They hold nothing that has no form here and nothing that is
nested too deep, and no override has the name of an option of the settings library. -/
structure Sources.Usual (s : Sources) (yaml : String → Except Yaml.Failure Value) : Prop where
  files : ∀ file ∈ [s.shared, s.workspace], ∀ text, file.contents = some (.text text) →
    yaml text ≠ .error .beyond ∧ ∀ v, yaml text = .ok v → depth v ≤ nestingRoom
  environment : ∀ entry ∈ s.environment, variableStart <+: entry.1.toLower.toList →
    IsPlainJson entry.2
  names : ∀ k ∈ s.overrides.keys, ∃ name : String, k = .text name ∧ name.toList.head? ≠ some '_'
  overrides : ∀ entry ∈ s.overrides, depth entry.2 ≤ nestingRoom

/-- What ends loading without a report. Each source is looked at only if those before it can be
read. -/
inductive Sources.Unforeseen (s : Sources) (yaml : String → Except Yaml.Failure Value) : Prop where
  | shared (h : s.shared.Misread yaml)
  | workspace {shared : Entries Key Value} (hshared : s.shared.read yaml = .ok shared)
      (h : s.workspace.Misread yaml)
  | environment {shared workspace : Entries Key Value} (hshared : s.shared.read yaml = .ok shared)
      (hworkspace : s.workspace.read yaml = .ok workspace) (h : s.environment.Unreadable)
  /-- A key of a file is no text. -/
  | name {shared workspace : Entries Key Value} (hshared : s.shared.read yaml = .ok shared)
      (hworkspace : s.workspace.read yaml = .ok workspace) (henv : ¬s.environment.Unreadable)
      {k : Key} (hk : k ∈ shared.keys ∨ k ∈ workspace.keys) (htext : isTextKey k = false)
  /-- Of all outputs, in whatever source, the ones that count are looked at. -/
  | home {entries : Entries Key Value} (hentries : s.combined yaml = .ok entries)
      (htext : ∀ k ∈ entries.keys, isTextKey k = true) {items : List Value}
      (hitems : valueAt (.map entries) [.text "logging", .text "outputs"] = some (.list items))
      {item : Value} (hitem : item ∈ items) (h : IsElsewhere s.home item)
  /-- In the first value that is not accepted, a whole number is too long to be written. -/
  | unwritable {entries : Entries Key Value} (hentries : s.combined yaml = .ok entries)
      (htext : ∀ k ∈ entries.keys, isTextKey k = true) {c : Complaint} {others : List Complaint}
      (hrefused : checkStrictly s.home entries = .refused (c :: others))
      (h : c.input.isWritable = false)

section Loading

variable {s : Sources} {yaml : String → Except Yaml.Failure Value}

theorem combined_eq_ok {entries : Entries Key Value} :
    s.combined yaml = .ok entries ↔
      ∃ shared workspace environment, s.shared.read yaml = .ok shared ∧
        s.workspace.read yaml = .ok workspace ∧ s.environment.settings = .ok environment ∧
        entries =
          merge (merge shared workspace) (merge environment (foldOverrides s.overrides)) := by
  unfold Sources.combined
  simp only [bind_eq_ok]
  cases s.environment.settings with
  | error name => simp [Except.mapError]
  | ok environment => simp [Except.mapError, pure, Except.pure, eq_comm]

theorem escapes_combined : Escapes (s.combined yaml) ↔
    s.shared.Misread yaml ∨ ∃ shared, s.shared.read yaml = .ok shared ∧
      (s.workspace.Misread yaml ∨ ∃ workspace, s.workspace.read yaml = .ok workspace ∧
        s.environment.Unreadable) := by
  unfold Sources.combined
  simp only [escapes_bind, escapes_read_iff, ← Environment.settings_eq_error]
  cases s.environment.settings with
  | error name => simp [Except.mapError, LoadFailure.isReported]
  | ok environment => simp [Except.mapError, pure, Except.pure]

/-- A section has a name that is no text if some file gives one such name. -/
theorem names_combined (h : s.Usual yaml) {shared workspace environment : Entries Key Value}
    (henv : s.environment.settings = .ok environment) :
    (∃ k ∈ (merge (merge shared workspace) (merge environment (foldOverrides s.overrides))).keys,
        isTextKey k = false) ↔
      ∃ k, (k ∈ shared.keys ∨ k ∈ workspace.keys) ∧ isTextKey k = false := by
  have hnone : ¬ ∃ k ∈ environment.keys, (!isTextKey k) = true := by
    rintro ⟨k, hk, hf⟩
    simp [Environment.isTextKey_of_mem henv hk] at hf
  have hoverrides : ¬ ∃ k ∈ (foldOverrides s.overrides).keys, (!isTextKey k) = true := by
    rintro ⟨k, hk, hf⟩
    obtain ⟨name, rfl, -⟩ := h.names k ((mem_keys_foldOverrides (by simpa using hf)).mp hk)
    cases hf
  have hmerge := exists_key_merge respects_isTextKey
  simp only [← Bool.not_eq_true', hmerge, hnone, hoverrides, or_false, or_and_right, exists_or]

/-- Once all sources are read, what is left is a name, a home directory, or a number too long. -/
theorem escapes_load : Escapes (load s yaml) ↔
    Escapes (s.combined yaml) ∨ ∃ entries, s.combined yaml = .ok entries ∧
      ((∃ k ∈ entries.keys, isTextKey k = false) ∨
        (∀ k ∈ entries.keys, isTextKey k = true) ∧
          (checkStrictly s.home entries = .homeless ∨
            ∃ c others, checkStrictly s.home entries = .refused (c :: others) ∧
              c.input.isWritable = false)) := by
  unfold load
  rw [escapes_bind]
  apply or_congr_right
  apply exists_congr
  intro entries
  apply and_congr_right
  intro _
  have hkeys : entries.all (isTextKey ·.1) = true ↔ ∀ k ∈ entries.keys, isTextKey k = true := by
    simp [keys]
  by_cases htext : ∀ k ∈ entries.keys, isTextKey k = true
  · have hnone : ¬∃ k ∈ entries.keys, isTextKey k = false := by
      rintro ⟨k, hk, hf⟩
      simp [htext k hk] at hf
    simp only [hkeys.mpr htext, Bool.not_true, Bool.false_eq_true, if_false, hnone, false_or,
      and_iff_right htext]
    rcases hchecked : checkStrictly s.home entries with settings | (_ | ⟨c, cs⟩) | _
    · simp
    · exact absurd hchecked (complains_checkStrictly s.home entries)
    · cases hwritable : c.input.isWritable <;>
        simp [hwritable, Complaint.toFailure, LoadFailure.isReported]
    · simp [LoadFailure.isReported]
  · have hsome : ∃ k ∈ entries.keys, isTextKey k = false := by
      simpa using htext
    have hfalse : entries.all (isTextKey ·.1) = false := by
      rw [Bool.eq_false_iff]
      exact mt hkeys.mp htext
    simp [hfalse, hsome, bind, Except.bind, throw, throwThe, MonadExceptOf.throw,
      LoadFailure.isReported]

end Loading

/-- **Loading fails without a report exactly on what nobody foresaw**, whatever reads the files. In
all other cases it gives settings or reports a problem with them. -/
theorem load_escapes_iff (yaml : String → Except Yaml.Failure Value) (s : Sources)
    (h : s.Usual yaml) : Escapes (load s yaml) ↔ s.Unforeseen yaml := by
  rw [escapes_load, escapes_combined]
  constructor
  · rintro ((hm | ⟨shared, hs, hm | ⟨workspace, hw, hu⟩⟩) |
      ⟨entries, hc, ⟨k, hk, hf⟩ | ⟨htext, hhome | ⟨c, others, hrefused, hc'⟩⟩⟩)
    · exact .shared hm
    · exact .workspace hs hm
    · exact .environment hs hw hu
    · obtain ⟨shared, workspace, environment, hs, hw, he, rfl⟩ := combined_eq_ok.mp hc
      obtain ⟨k, hk, hf⟩ := (names_combined h he).mp ⟨k, hk, hf⟩
      refine .name hs hw ?_ hk hf
      simp [← Environment.settings_eq_error, he]
    · obtain ⟨items, hitems, item, hitem, helse⟩ := checkStrictly_eq_homeless.mp hhome
      exact .home hc htext hitems hitem helse
    · exact .unwritable hc htext hrefused hc'
  · intro hu
    cases hu with
    | shared hm => exact Or.inl (Or.inl hm)
    | workspace hs hm => exact Or.inl (Or.inr ⟨_, hs, Or.inl hm⟩)
    | environment hs hw hu => exact Or.inl (Or.inr ⟨_, hs, Or.inr ⟨_, hw, hu⟩⟩)
    | name hs hw henv hk hf =>
      rw [← Environment.settings_eq_error] at henv
      cases he : s.environment.settings with
      | error name => exact absurd ⟨name, he⟩ henv
      | ok environment =>
        refine Or.inr ⟨_, combined_eq_ok.mpr ⟨_, _, _, hs, hw, he, rfl⟩, Or.inl ?_⟩
        exact (names_combined h he).mpr ⟨_, hk, hf⟩
    | home hc htext hitems hitem helse =>
      refine Or.inr ⟨_, hc, Or.inr ⟨htext, Or.inl ?_⟩⟩
      exact checkStrictly_eq_homeless.mpr ⟨_, hitems, _, hitem, helse⟩
    | unwritable hc htext hrefused hc' =>
      exact Or.inr ⟨_, hc, Or.inr ⟨htext, Or.inr ⟨_, _, hrefused, hc'⟩⟩⟩

def workspaceOnly (text : String) : Sources where
  home := "/"
  shared := ⟨"settings.yaml", none⟩
  workspace := ⟨"settings.yaml", some text⟩

/-- An output in the home directory of a user who is not known. -/
def strayOutput : String :=
  "logging:\n  outputs:\n    - destination: ~nosuchuser_zz/p.log\n"

theorem load_escapes_iff_strayOutput :
    (workspaceOnly strayOutput).Usual Yaml.read ∧ Escapes (load (workspaceOnly strayOutput)) ∧
      (workspaceOnly strayOutput).Unforeseen Yaml.read := by
  have hvalue : (Yaml.read strayOutput).toOption.any (fun v => depth v ≤ nestingRoom) = true := by
    decide +kernel
  have husual : (workspaceOnly strayOutput).Usual Yaml.read := by
    refine ⟨fun file hfile text htext => ?_, ?_, ?_, ?_⟩
    · rcases List.mem_pair.mp hfile with rfl | rfl
      · cases htext
      · cases htext
        cases hread : Yaml.read strayOutput with
        | error e => simp [hread, Except.toOption] at hvalue
        | ok v => simpa [hread, Except.toOption] using hvalue
    all_goals simp [workspaceOnly, keys]
  have hescapes : Escapes (load (workspaceOnly strayOutput)) := by
    decide +kernel
  exact ⟨husual, hescapes, (load_escapes_iff Yaml.read _ husual).mp hescapes⟩

/-- The home directory of a user who is not known, a section whose name is a number, a month that no
year has, a mark of a date on what is none, a variable that is no JSON, and a number that is refused
and has too many digits. -/
theorem load_escapes :
    let bare : Sources := { workspaceOnly "" with workspace := ⟨"settings.yaml", none⟩ }
    Escapes (load (workspaceOnly strayOutput)) ∧
    Escapes (load (workspaceOnly "1: x")) ∧
    Escapes (load (workspaceOnly "index: 2020-13-01")) ∧
    Escapes (load (workspaceOnly "index: !!timestamp foo")) ∧
    Escapes (load { bare with environment := [("PERLSCOPE__INDEX", "x")] }) ∧
    Escapes (load { bare with overrides := [(.text "index", .int (Nat.pow 10 4300 : Nat))] }) := by
  decide +kernel

end PerlSymbols.Settings
