import PerlSymbols.Log.Journal

/-!
# What is written to each output

An output is meant to have a level of its own. It has, but only upward: a record of the program goes
to an output if its level is at or above that of the output and that of the whole log. So an output
takes exactly what is at or above its own level if that is not below the level of the log, and
otherwise it misses the records in between. Here the calls come in any number and order, from the
program and from libraries, and outputs may share a stream or a file.
-/

namespace PerlSymbols.Log

@[simp]
theorem levelFor_own (settings : LogSettings) : levelFor settings none = settings.level :=
  rfl

/-- A call for a log record. -/
structure Call where
  message : Message
  time : String
  request : Option String
  /-- A number without a text would spoil the line. -/
  writable : (message.entries.all fun entry => entry.2.isWritable) = true := by rfl

namespace Call

/-- The line that a call makes in an output. -/
def lineFor (o : LogOutput) (c : Call) : Line :=
  .of o.format (c.message.stamped c.time c.request)

/-- The call is at or above the level of an output. -/
def reaches (settings : LogSettings) (o : LogOutput) (c : Call) : Bool :=
  c.message.level.reaches (threshold settings o)

/-- The call goes to an output. -/
def isWritten (settings : LogSettings) (o : LogOutput) (c : Call) : Bool :=
  isHeard settings c.message && c.reaches settings o

theorem isWritten_iff {settings : LogSettings} {o : LogOutput} {c : Call} :
    c.isWritten settings o = true ↔
      (levelFor settings c.message.library).rank ≤ c.message.level.rank ∧
      (threshold settings o).rank ≤ c.message.level.rank := by
  simp [isWritten, isHeard, reaches, Level.reaches]

/-- Of the program's own calls, those at or above the level of an output go there, if the level of
the log is not higher. -/
theorem isWritten_eq_reaches {settings : LogSettings} {o : LogOutput} {c : Call}
    (hown : c.message.library = none) (hle : settings.level.rank ≤ (threshold settings o).rank) :
    c.isWritten settings o = c.reaches settings o := by
  rw [Bool.eq_iff_iff, isWritten_iff, hown, levelFor_own]
  simp only [reaches, Level.reaches, decide_eq_true_eq]
  omega

end Call

/-- The outputs that lead to a stream or file. -/
def outputsAt (settings : LogSettings) (target' : String) : List LogOutput :=
  settings.outputs.filter fun o => target o.destination == target'

namespace Journal

/-- What was written to a stream or file since the last report. -/
def newsAt (j : Journal) (target : String) : List Line :=
  (j.news.get? target).getD []

def logAll (j : Journal) (calls : List Call) : Journal :=
  calls.foldl (fun j c => j.log c.time c.request c.message) j

theorem newsAt_write (j : Journal) (target target' : String) (line : Line) :
    (j.write target line).newsAt target' =
      j.newsAt target' ++ if target == target' then [line] else [] := by
  by_cases he : target = target'
  · subst he
    simp [newsAt, write, Entries.get?_put]
  · simp [newsAt, write, Entries.get?_put, he]

/-! ## One call -/

theorem newsAt_writes (j : Journal) (target' : String) (lines : List (LogOutput × Line)) :
    (lines.foldl (fun j entry => j.write (target entry.1.destination) entry.2) j).newsAt target' =
      j.newsAt target' ++
        (lines.filter fun entry => target entry.1.destination == target').map Prod.snd := by
  induction lines generalizing j with
  | nil => simp
  | cons entry rest ih =>
    rw [List.foldl_cons, ih, newsAt_write, List.filter_cons]
    split <;> simp

theorem settings_writes (j : Journal) (lines : List (LogOutput × Line)) :
    (lines.foldl (fun j entry => j.write (target entry.1.destination) entry.2) j).settings =
      j.settings := by
  induction lines generalizing j with
  | nil => rfl
  | cons entry rest ih => exact ih _

theorem deliver_eq (settings : LogSettings) (c : Call) :
    deliver settings c.message c.time c.request =
      (settings.outputs.filter (c.isWritten settings)).map fun o => (o, c.lineFor o) := by
  unfold deliver
  split
  · next hheard =>
    have hsame : ∀ o, c.isWritten settings o = c.message.level.reaches (threshold settings o) := by
      intro o
      rw [Call.isWritten, hheard, Bool.true_and, Call.reaches]
    rw [List.filter_congr fun o _ => hsame o]
    rfl
  · next hheard =>
    have hnone : ∀ o, c.isWritten settings o = false := by
      intro o
      simp [Call.isWritten, hheard]
    rw [List.filter_congr fun o _ => hnone o]
    simp

/-- The lines of a call go to the outputs that let it through, each to its stream or file. -/
theorem log_eq {j : Journal} {settings : LogSettings} (hs : j.settings = some settings)
    (hne : settings.outputs ≠ []) (c : Call) :
    j.log c.time c.request c.message =
      ((settings.outputs.filter (c.isWritten settings)).map fun o => (o, c.lineFor o)).foldl
        (fun j entry => j.write (target entry.1.destination) entry.2) j := by
  have hsome : settings.outputs.isEmpty = false := by simpa using hne
  rw [log, hs]
  simp only [hsome, Bool.false_eq_true, if_false, deliver_eq]

theorem newsAt_log {j : Journal} {settings : LogSettings} (hs : j.settings = some settings)
    (hne : settings.outputs ≠ []) (c : Call) (target' : String) :
    (j.log c.time c.request c.message).newsAt target' =
      j.newsAt target' ++
        ((outputsAt settings target').filter (c.isWritten settings)).map c.lineFor := by
  rw [log_eq hs hne, newsAt_writes, List.filter_map, List.map_map, outputsAt, List.filter_filter,
    List.filter_filter]
  simp only [Function.comp_def, Bool.and_comm]

/-! ## Any number of calls -/

theorem newsAt_logAll {j : Journal} {settings : LogSettings} (hs : j.settings = some settings)
    (hne : settings.outputs ≠ []) (calls : List Call) (target' : String) :
    (j.logAll calls).newsAt target' =
      j.newsAt target' ++ calls.flatMap fun c =>
        ((outputsAt settings target').filter (c.isWritten settings)).map c.lineFor := by
  induction calls generalizing j with
  | nil => simp [logAll]
  | cons c calls ih =>
    have hs' : (j.log c.time c.request c.message).settings = some settings := by
      rw [log_eq hs hne, settings_writes, hs]
    have hnext := ih hs'
    rw [newsAt_log hs hne, List.append_assoc] at hnext
    rw [List.flatMap_cons, ← hnext]
    rfl

theorem settings_configure (j : Journal) (settings : LogSettings) :
    (j.configure settings).settings = some settings := by
  have hopen : ∀ (files : List String) (j : Journal), (files.foldl openFile j).settings =
      j.settings := by
    intro files
    induction files with
    | nil => exact fun _ => rfl
    | cons file files ih =>
      intro j
      rw [List.foldl_cons, ih, openFile]
      split <;> rfl
  exact hopen _ _

/-- An output that shares its stream or file with no other. -/
theorem newsAt_logAll_alone {j : Journal} {settings : LogSettings} {o : LogOutput}
    (hs : j.settings = some settings)
    (halone : outputsAt settings (target o.destination) = [o]) (calls : List Call) :
    (j.logAll calls).newsAt (target o.destination) =
      j.newsAt (target o.destination) ++
        (calls.filter (Call.isWritten settings o)).map (Call.lineFor o) := by
  have hne : settings.outputs ≠ [] := by
    intro hnil
    simp [outputsAt, hnil] at halone
  rw [newsAt_logAll hs hne, halone]
  congr 1
  induction calls with
  | nil => rfl
  | cons c calls ih =>
    rw [List.flatMap_cons, ih, List.filter_cons, List.filter_cons]
    split <;> simp

end Journal

/-- A record of the program itself, without any fields. -/
def ownCall (level : Level) : Call :=
  { message := .ofRecord ⟨level, "event", []⟩, time := "", request := none }

/-- **What an output takes.** A stream or file gets, call by call, one line from each of its outputs
that the call goes to. A call goes to an output if it is at or above the level of the output and the
one that holds where it comes from: that of the log, unless the library has its own. So an output
with a stream or file to itself has exactly the program's own calls at or above its own level if and
only if that is not below the level of the log. -/
theorem outputs_follow_levels_iff (j : Journal) (settings : LogSettings) :
    (∀ (o : LogOutput) (c : Call), c.isWritten settings o = true ↔
      (levelFor settings c.message.library).rank ≤ c.message.level.rank ∧
      (threshold settings o).rank ≤ c.message.level.rank) ∧
    (settings.outputs ≠ [] → ∀ calls target',
      ((j.configure settings).logAll calls).newsAt target' =
        (j.configure settings).newsAt target' ++ calls.flatMap fun c =>
          ((outputsAt settings target').filter (c.isWritten settings)).map c.lineFor) ∧
    (∀ o, outputsAt settings (target o.destination) = [o] →
      (∀ calls, ((j.configure settings).logAll calls).newsAt (target o.destination) =
        (j.configure settings).newsAt (target o.destination) ++
          (calls.filter (Call.isWritten settings o)).map (Call.lineFor o)) ∧
      ((∀ calls, (∀ c ∈ calls, c.message.library = none) →
        ((j.configure settings).logAll calls).newsAt (target o.destination) =
          (j.configure settings).newsAt (target o.destination) ++
            (calls.filter (Call.reaches settings o)).map (Call.lineFor o)) ↔
        settings.level.rank ≤ (threshold settings o).rank)) := by
  have hs := j.settings_configure settings
  refine ⟨?_, ?_, ?_⟩
  · intro o c
    exact Call.isWritten_iff
  · intro hne calls target'
    exact Journal.newsAt_logAll hs hne calls target'
  · intro o halone
    have hwritten := Journal.newsAt_logAll_alone hs halone
    refine ⟨hwritten, ?_, ?_⟩
    · intro hall
      -- A call right at the level of the output is enough.
      let c := ownCall (threshold settings o)
      have hcall := hall [c] (by simp [c, ownCall, Message.ofRecord])
      have hreaches : c.reaches settings o = true := by
        simp [c, ownCall, Message.ofRecord, Call.reaches, Level.reaches]
      rw [hwritten, List.append_cancel_left_eq, List.filter_cons, List.filter_cons, if_pos hreaches]
        at hcall
      split at hcall
      · next hwrites => exact (Call.isWritten_iff.mp hwrites).1
      · cases hcall
    · intro hle calls hown
      rw [hwritten, List.filter_congr fun c hc => Call.isWritten_eq_reaches (hown c hc) hle]

/-- An output below the level of the log. -/
def curious : LogOutput :=
  { format := .json, level := some .debug }

def curiousSettings : LogSettings :=
  { level := .info, outputs := [curious] }

/-- It asks for more than it gets. -/
theorem outputs_miss_calls :
    threshold curiousSettings curious = .debug ∧
    (ownCall .debug).reaches curiousSettings curious = true ∧
    ((({} : Journal).configure curiousSettings).logAll [ownCall .debug]).newsAt "stderr" = [] :=
  ⟨rfl, rfl, rfl⟩

/-- An output above the level of the log, which gets what it asks for. -/
def calm : LogOutput :=
  { format := .json, level := some .warning }

def mixedSettings : LogSettings :=
  { level := .info, outputs := [calm, { destination := "stdout" }] }

theorem outputs_follow_levels_iff_calm :
    outputsAt mixedSettings (target calm.destination) = [calm] ∧
    ((({} : Journal).configure mixedSettings).logAll
      [ownCall .error, ownCall .info, ownCall .warning]).newsAt "stderr" =
        [Call.lineFor calm (ownCall .error), Call.lineFor calm (ownCall .warning)] := by
  have halone : outputsAt mixedSettings (target calm.destination) = [calm] := by decide
  obtain ⟨-, hown⟩ := (outputs_follow_levels_iff {} mixedSettings).2.2 calm halone
  have hlevels : mixedSettings.level.rank ≤ (threshold mixedSettings calm).rank := by decide
  exact ⟨halone, hown.mpr hlevels [ownCall .error, ownCall .info, ownCall .warning]
    (by simp [ownCall, Message.ofRecord])⟩

end PerlSymbols.Log
