import PerlSymbols.Proofs.Settings.Accepted
import PerlSymbols.Proofs.Text.Search
import Mathlib.Tactic.IntervalCases

/-!
# Checking settings a second time

Settings that were accepted can be written as values and checked again. The second check accepts
them as they are, because a destination in its normal form stays as it is.
-/

namespace PerlSymbols.Settings

open Checked

/-! ## Paths in normal form -/

namespace Path

/-- There are at most two slashes in front, and no name is empty, a dot, or cut by a slash. -/
structure Normal (p : Path) : Prop where
  root : p.root ≤ 2
  names : ∀ name ∈ p.names, (name ≠ [] ∧ name ≠ ['.']) ∧ '/' ∉ name

theorem isName_iff (name : List Char) : isName name = true ↔ name ≠ [] ∧ name ≠ ['.'] := by
  simp [isName]

theorem normal_ofChars (cs : List Char) : (ofChars cs).Normal where
  root := by
    unfold ofChars rootOf
    dsimp only
    split <;> omega
  names := by
    intro name hname
    obtain ⟨hpiece, hname⟩ := List.mem_filter.mp hname
    exact ⟨(isName_iff name).mp hname, Text.not_mem_of_mem_pieces hpiece⟩

theorem normal_ofHome (cs : List Char) : (ofHome cs).Normal := by
  unfold ofHome
  split
  · exact ⟨by decide, by simp⟩
  · exact normal_ofChars cs

theorem normal_locate {homes : Homes} {user : List Char} {home : Path}
    (h : homes.locate user = .ok home) : home.Normal := by
  unfold Homes.locate at h
  split at h
  · cases h
  · split at h
    · split at h
      · cases h
      · cases h
        exact normal_ofHome _
    · cases h

theorem Normal.expand {homes : Homes} {p q : Path} (hp : p.Normal)
    (h : Path.expand homes p = .ok q) : q.Normal := by
  unfold Path.expand at h
  split at h
  · next user names _ hnames =>
    obtain ⟨home, hlocate, h⟩ := bind_eq_ok.mp h
    cases h
    have hhome := normal_locate hlocate
    refine ⟨hhome.root, fun name hname => ?_⟩
    rcases List.mem_append.mp hname with hname | hname
    · exact hhome.names name hname
    · exact hp.names name (hnames ▸ List.mem_cons_of_mem _ hname)
  · cases h
    exact hp

theorem expand_of_isAbsolute {p : Path} (h : p.isAbsolute = true) (homes : Homes) :
    Path.expand homes p = .ok p := by
  unfold Path.expand
  split
  · next hroot _ => simp [isAbsolute, hroot] at h
  · rfl

/-- The names do not begin with a slash. -/
theorem takeWhile_intercalate {names : List (List Char)}
    (h : ∀ name ∈ names, (name ≠ [] ∧ name ≠ ['.']) ∧ '/' ∉ name) :
    (['/'].intercalate names).takeWhile (· == '/') = [] := by
  cases names with
  | nil => rfl
  | cons name names =>
    obtain ⟨⟨hname, -⟩, hslash⟩ := h name List.mem_cons_self
    cases name with
    | nil => exact absurd rfl hname
    | cons c name =>
      have hc : c ≠ '/' := fun he => hslash (he ▸ List.mem_cons_self)
      rw [Text.intercalate_cons_head, List.takeWhile_cons_of_neg (by simpa using hc)]

theorem names_replicate_append (n : Nat) (cs : List Char) :
    (Text.pieces '/' (List.replicate n '/' ++ cs)).filter isName =
      (Text.pieces '/' cs).filter isName := by
  induction n with
  | zero => rfl
  | succ n ih =>
    rw [List.replicate_succ, List.cons_append, Text.pieces, if_pos rfl,
      List.filter_cons_of_neg (by decide), ih]

theorem names_intercalate {names : List (List Char)}
    (h : ∀ name ∈ names, (name ≠ [] ∧ name ≠ ['.']) ∧ '/' ∉ name) :
    (Text.pieces '/' (['/'].intercalate names)).filter isName = names := by
  cases names with
  | nil => rfl
  | cons name names =>
    rw [Text.pieces_intercalate (fun name hname => (h name hname).2) (List.cons_ne_nil _ _),
      List.filter_eq_self]
    exact fun name hname => (isName_iff name).mpr (h name hname).1

/-- **A path in normal form is read as it is written.** -/
theorem Normal.ofChars_toChars {p : Path} (h : p.Normal) : ofChars p.toChars = p := by
  obtain ⟨root, names⟩ := p
  obtain ⟨hroot, hnames⟩ := h
  have hslashes : (toChars ⟨root, names⟩).takeWhile (· == '/') = List.replicate root '/' := by
    rw [toChars, List.takeWhile_append_of_pos (by simp), takeWhile_intercalate hnames,
      List.append_nil]
  have hsame : rootOf root = root := by
    replace hroot : root ≤ 2 := hroot
    interval_cases root <;> rfl
  unfold ofChars
  rw [hslashes, List.length_replicate, hsame, toChars, names_replicate_append,
    names_intercalate hnames]

end Path

/-! ## Destinations -/

/-- A standard stream, or an absolute path in normal form. -/
def IsSettled (path : String) : Prop :=
  path = "stderr" ∨ path = "stdout" ∨
    ∃ p : Path, p.Normal ∧ p.isAbsolute = true ∧ path = String.ofList p.toChars

theorem isSettled_of_destination {homes : Homes} {text path : String}
    (h : destination homes text = .ok path) : IsSettled path := by
  unfold destination at h
  split at h
  · next hstream =>
    cases h
    rcases Bool.or_eq_true_iff.mp hstream with hs | hs
    · exact Or.inl (beq_iff_eq.mp hs)
    · exact Or.inr (Or.inl (beq_iff_eq.mp hs))
  · obtain ⟨p, hp, h⟩ := bind_eq_ok.mp h
    split at h
    · next habsolute =>
      cases h
      have hnormal := (Path.normal_ofChars _).expand hp
      exact Or.inr (Or.inr ⟨p, hnormal, habsolute, rfl⟩)
    · cases h

/-- What is settled stays as it is, in whatever home directory. -/
theorem destination_of_isSettled {path : String} (h : IsSettled path) (homes : Homes) :
    destination homes path = .ok path := by
  rcases h with rfl | rfl | ⟨p, hnormal, habsolute, rfl⟩
  · rfl
  · rfl
  · have hread : Path.ofChars (String.ofList p.toChars).toList = p := by
      rw [String.toList_ofList, hnormal.ofChars_toChars]
    unfold destination
    split
    · rfl
    · rw [hread, Path.expand_of_isAbsolute habsolute]
      simp [bind, Except.bind, habsolute, pure, Except.pure]

/-! ## What accepted settings keep to -/

/-- The rules that accepted settings keep, whatever they were made from. -/
structure Settled (s : Settings) : Prop where
  destinations : ∀ o ∈ s.logging.outputs, IsSettled o.destination
  interval : ¬ s.index.interval ≤ 0.0
  retries : 1 ≤ s.index.retries

theorem isSettled_of_checkDestination {homes : Homes} {v : Value} {path : String}
    (h : checkDestination homes v = .accepted path) : IsSettled path := by
  cases v with
  | text s =>
    rw [checkDestination] at h
    split at h
    · next hpath =>
      cases h
      exact isSettled_of_destination hpath
    · simp at h
    · simp at h
    · cases h
  | null | bool | int | float | stamp | list | map => simp [checkDestination] at h

theorem isSettled_of_checkOutputFields {homes : Homes} {m : Entries Key Value} {o : LogOutput}
    (h : checkOutputFields homes m = .accepted o) : IsSettled o.destination := by
  obtain ⟨⟨format, path⟩, level, hpair, -, rfl⟩ := both_eq_accepted.mp h
  obtain ⟨_, _, -, hpath, hsame⟩ := both_eq_accepted.mp hpair
  cases hsame
  exact checkField_keeps (Or.inl rfl) (fun _ _ => isSettled_of_checkDestination) hpath

/-- A list is accepted item by item. -/
theorem checkItems_eq_accepted {α : Type} {check : Value → Checked α} {i : Nat}
    {items : List Value} {as : List α} :
    checkItems check i items = .accepted as ↔
      List.Forall₂ (fun v a => check v = .accepted a) items as := by
  induction items generalizing i as with
  | nil => simp [checkItems, eq_comm]
  | cons v items ih =>
    simp only [checkItems, both_eq_accepted, under_eq_accepted, ih, List.forall₂_cons_left_iff]
    simp only [eq_comm]

theorem isSettled_of_checkOutputs {homes : Homes} {v : Value} {outputs : List LogOutput}
    (h : checkOutputs homes v = .accepted outputs) : ∀ o ∈ outputs, IsSettled o.destination := by
  cases v with
  | list items =>
    rw [checkOutputs, checkItems_eq_accepted] at h
    induction h with
    | nil => simp
    | cons hitem _ ih =>
      obtain ⟨m, -, hfields⟩ := checkSection_eq_accepted.mp hitem
      exact List.forall_mem_cons.mpr ⟨isSettled_of_checkOutputFields hfields, ih⟩
  | null | bool | int | float | text | stamp | map => simp [checkOutputs] at h

theorem isSettled_of_checkLogFields {homes : Homes} {m : Entries Key Value} {logging : LogSettings}
    (h : checkLogFields homes m = .accepted logging) :
    ∀ o ∈ logging.outputs, IsSettled o.destination := by
  obtain ⟨level, outputs, -, houtputs, rfl⟩ := both_eq_accepted.mp h
  have hdefault : ∀ o ∈ ({} : LogSettings).outputs, IsSettled o.destination := by
    simp [IsSettled]
  exact checkField_keeps hdefault (fun _ _ => isSettled_of_checkOutputs) houtputs

theorem settled_of_checkAll {homes : Homes} {entries : Entries Key Value} {settings : Settings}
    (h : checkAll homes entries = .accepted settings) : Settled settings := by
  obtain ⟨logging, index, hlogging, hindex, rfl⟩ := both_eq_accepted.mp h
  have houtputs : ∀ o ∈ logging.outputs, IsSettled o.destination := by
    refine checkField_keeps (P := fun logging => ∀ o ∈ logging.outputs, IsSettled o.destination)
      (@isSettled_of_checkLogFields homes [] {} rfl) (fun v logging hv => ?_) hlogging
    obtain ⟨m, -, hfields⟩ := checkSection_eq_accepted.mp hv
    exact isSettled_of_checkLogFields hfields
  have hbounds : ¬ index.interval ≤ 0.0 ∧ 1 ≤ index.retries := by
    refine checkField_keeps (P := fun index => ¬ index.interval ≤ 0.0 ∧ 1 ≤ index.retries)
      (@checkIndexFields_keeps [] {} rfl) (fun v index hv => ?_) hindex
    obtain ⟨m, -, hfields⟩ := checkSection_eq_accepted.mp hv
    exact checkIndexFields_keeps hfields
  exact ⟨houtputs, hbounds.1, hbounds.2⟩

/-! ## The second check -/

theorem checkFormat_name (format : LogFormat) :
    checkFormat (.text format.name) = .accepted format := by
  cases format <;> rfl

theorem checkLevel_name (level : Log.Level) : checkLevel (.text level.name) = .accepted level := by
  cases level <;> rfl

theorem checkOutput_toValue {o : LogOutput} (h : IsSettled o.destination) (homes : Homes) :
    checkSection "LogOutputConfig" (checkOutputFields homes) o.toValue = .accepted o := by
  have hdestination : checkDestination homes (.text o.destination) = .accepted o.destination := by
    rw [checkDestination, destination_of_isSettled h homes]
  refine checkSection_eq_accepted.mpr ⟨_, rfl, both_eq_accepted.mpr
    ⟨(o.format, o.destination), o.level, both_eq_accepted.mpr ⟨_, _, ?_, ?_, rfl⟩, ?_, rfl⟩⟩
  · exact checkField_eq_accepted.mpr (checkFormat_name o.format)
  · exact checkField_eq_accepted.mpr hdestination
  · refine checkField_eq_accepted.mpr ?_
    obtain ⟨format, path, level⟩ := o
    cases level with
    | none => rfl
    | some level => exact map_eq_accepted.mpr ⟨level, checkLevel_name level, rfl⟩

theorem checkLogging_toValue {s : LogSettings} (h : ∀ o ∈ s.outputs, IsSettled o.destination)
    (homes : Homes) :
    checkSection "LoggingConfig" (checkLogFields homes) s.toValue = .accepted s := by
  have houtputs : checkOutputs homes (.list (s.outputs.map LogOutput.toValue)) =
      .accepted s.outputs := by
    rw [checkOutputs, checkItems_eq_accepted, List.forall₂_map_left_iff, List.forall₂_same]
    exact fun o ho => checkOutput_toValue (h o ho) homes
  refine checkSection_eq_accepted.mpr ⟨_, rfl, both_eq_accepted.mpr ⟨_, _, ?_, ?_, rfl⟩⟩
  · exact checkField_eq_accepted.mpr (checkLevel_name s.level)
  · exact checkField_eq_accepted.mpr houtputs

theorem checkIndex_toValue {s : IndexSettings} (hinterval : ¬ s.interval ≤ 0.0)
    (hretries : 1 ≤ s.retries) :
    checkSection "IndexConfig" checkIndexFields s.toValue = .accepted s := by
  refine checkSection_eq_accepted.mpr ⟨_, rfl, both_eq_accepted.mpr ⟨_, _, ?_, ?_, rfl⟩⟩
  · exact checkField_eq_accepted.mpr (checkInterval_eq_accepted.mpr ⟨rfl, hinterval⟩)
  · exact checkField_eq_accepted.mpr (checkRetries_eq_accepted.mpr ⟨rfl, hretries⟩)

theorem checkAll_toEntries {settings : Settings} (h : Settled settings) (homes : Homes) :
    checkAll homes settings.toEntries = .accepted settings := by
  refine both_eq_accepted.mpr ⟨settings.logging, settings.index, ?_, ?_, rfl⟩
  · exact checkField_eq_accepted.mpr (checkLogging_toValue h.destinations homes)
  · exact checkField_eq_accepted.mpr (checkIndex_toValue h.interval h.retries)

/-- **A second check changes nothing**: not of a destination, wherever the home directories are, not
of settings that were accepted, and not of settings that were loaded, whatever reads the files. -/
theorem recheck_keeps_settings (homes : Homes) (text path : String)
    (yaml : String → Except Yaml.Failure Value) (s : Sources) (settings : Settings) :
    (destination homes text = .ok path → IsSettled path ∧ destination homes path = .ok path) ∧
    (∀ entries, checkAll homes entries = .accepted settings →
      checkAll homes settings.toEntries = .accepted settings) ∧
    (load s yaml = .ok settings → checkAll s.home settings.toEntries = .accepted settings) := by
  refine ⟨fun h => ?_, fun entries h => ?_, fun h => ?_⟩
  · have hsettled := isSettled_of_destination h
    exact ⟨hsettled, destination_of_isSettled hsettled homes⟩
  · exact checkAll_toEntries (settled_of_checkAll h) homes
  · obtain ⟨entries, -, haccepted⟩ := accepted_of_load h
    exact checkAll_toEntries (settled_of_checkAll haccepted) s.home

def someHomes : Homes where
  find?
    | "" => some "/home/me/"
    | "root" => some "/root"
    | _ => none

/-- Paths below two home directories, and settings that name them. -/
theorem recheck_keeps_settings_homes :
    let sources : Sources :=
      { home := someHomes, shared := ⟨"settings.yaml", none⟩,
        workspace := ⟨"settings.yaml", some (.text ("logging:\n  outputs:\n"
          ++ "    - destination: ~root/x.log\n    - destination: ~/.//logs/./a.log/\n"))⟩ }
    (destination someHomes "~root/x.log" = .ok "/root/x.log" ∧ IsSettled "/root/x.log" ∧
      destination someHomes "/root/x.log" = .ok "/root/x.log") ∧
    ∃ settings, load sources = .ok settings ∧
      settings.logging.outputs.map (·.destination) = ["/root/x.log", "/home/me/logs/a.log"] ∧
      checkAll someHomes settings.toEntries = .accepted settings := by
  intro sources
  have hpath : destination someHomes "~root/x.log" = .ok "/root/x.log" := by
    decide +kernel
  have hany : (load sources).toOption.any (fun settings =>
      settings.logging.outputs.map (·.destination) == ["/root/x.log", "/home/me/logs/a.log"]) =
        true := by
    decide +kernel
  obtain ⟨settings, hload, houtputs⟩ := exists_ok_of_any hany
  obtain ⟨hsame, -, hagain⟩ := recheck_keeps_settings someHomes "~root/x.log" "/root/x.log"
    Yaml.read sources settings
  exact ⟨⟨hpath, hsame hpath⟩, settings, hload, beq_iff_eq.mp houtputs, hagain hload⟩

end PerlSymbols.Settings
