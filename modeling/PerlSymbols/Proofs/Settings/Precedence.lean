import PerlSymbols.Proofs.Settings.Sources

/-!
# Precedence of the sources

Settings are laid over each other leaf by leaf, so a source that gives one leaf does not hide the
others. What loading comes to is settled by the four leaves and by the keys that are no sections.
-/

namespace PerlSymbols.Settings

open Entries

/-- The settings themselves, each a field of a section. -/
inductive Leaf where
  | level
  | outputs
  | interval
  | retries
  deriving DecidableEq

namespace Leaf

def inSection : Leaf → String
  | .level | .outputs => "logging"
  | .interval | .retries => "index"

def field : Leaf → String
  | .level => "level"
  | .outputs => "outputs"
  | .interval => "poll_interval_sec"
  | .retries => "max_retries"

/-- What some entries have for the leaf. -/
def of (leaf : Leaf) (entries : Entries Key Value) : Option Value :=
  fieldOf leaf.field (entries.get? (.text leaf.inSection))

theorem inSection_mem (leaf : Leaf) : leaf.inSection ∈ sectionNames := by
  cases leaf <;> simp [inSection, sectionNames]

end Leaf

/-! ## Checks, leaf by leaf -/

namespace Checked

variable {α β γ : Type}

theorem under_both (name : String) (f : α → β → γ) (x : Checked α) (y : Checked β) :
    (x.both f y).under name = (x.under name).both f (y.under name) := by
  cases x <;> cases y <;> simp [both, under]

end Checked

/-- Checks a leaf; one that is not given has its default. -/
def checkLeaf {α : Type} (leaf : Leaf) (default : α) (check : Value → Checked α)
    (given : Option Value) : Checked α :=
  match given with
  | some v => ((check v).under leaf.field).under leaf.inSection
  | none => .accepted default

def checkLeaves (homes : Homes) (given : Leaf → Option Value) : Checked Settings :=
  let start : Settings := {}
  ((checkLeaf .level start.logging.level checkLevel (given .level)).both
      (fun level outputs => ({ level, outputs } : LogSettings))
      (checkLeaf .outputs start.logging.outputs (checkOutputs homes) (given .outputs))).both
    (fun logging index => { logging, index })
    ((checkLeaf .interval start.index.interval checkInterval (given .interval)).both
      (fun interval retries => ({ interval, retries } : IndexSettings))
      (checkLeaf .retries start.index.retries checkRetries (given .retries)))

theorem checkField_under {α : Type} (leaf : Leaf) (m : Entries Key Value) (default : α)
    (check : Value → Checked α) :
    (checkField m leaf.field default check).under leaf.inSection =
      checkLeaf leaf default check (m.get? (.text leaf.field)) := by
  unfold checkField checkLeaf
  cases m.get? (.text leaf.field) <;> rfl

/-- A section of two fields that is a map is checked field by field. -/
theorem checkField_section {α β γ : Type} {name form : String} (first second : Leaf)
    (h₁ : first.inSection = name) (h₂ : second.inSection = name) (f : α → β → γ) (a : α) (b : β)
    (check₁ : Value → Checked α) (check₂ : Value → Checked β) {entries : Entries Key Value}
    (h : ∀ v, entries.get? (.text name) = some v → ∃ m, v = .map m) :
    checkField entries name (f a b) (checkSection form fun m =>
        (checkField m first.field a check₁).both f (checkField m second.field b check₂)) =
      (checkLeaf first a check₁ (first.of entries)).both f
        (checkLeaf second b check₂ (second.of entries)) := by
  subst h₁
  unfold Leaf.of checkField
  rw [h₂]
  cases hg : entries.get? (.text first.inSection) with
  | none => rfl
  | some v =>
    obtain ⟨m, rfl⟩ := h v hg
    have hfirst := checkField_under first m a check₁
    have hsecond := checkField_under second m b check₂
    rw [h₂] at hsecond
    simp only [checkSection, Checked.under_both, fieldOf, Option.bind_some, Value.field?]
    rw [← hfirst, ← hsecond]
    rfl

/-- Sections that are maps are checked leaf by leaf. -/
theorem checkAll_eq (homes : Homes) {entries : Entries Key Value}
    (h : ∀ name ∈ sectionNames, ∀ v, entries.get? (.text name) = some v → ∃ m, v = .map m) :
    checkAll homes entries = checkLeaves homes fun leaf => leaf.of entries := by
  have hlogging := h "logging" (by simp [sectionNames])
  have hindex := h "index" (by simp [sectionNames])
  unfold checkAll checkLeaves
  exact congrArg₂ (Checked.both _)
    (checkField_section .level .outputs rfl rfl _ _ _ _ _ hlogging)
    (checkField_section .interval .retries rfl rfl _ _ _ _ _ hindex)

/-! ## Keys that are no sections -/

/-- The entries whose keys are no sections. -/
def strangers (entries : Entries Key Value) : Entries Key Value :=
  entries.filter fun entry => !(sectionNames.map Key.text).contains entry.1

theorem checkNames_strangers (entries : Entries Key Value) :
    checkNames (strangers entries) = checkNames entries := by
  simp only [checkNames, strangers, List.filter_filter, Bool.and_self]

theorem all_isTextKey_strangers (entries : Entries Key Value) :
    (strangers entries).all (isTextKey ·.1) = entries.all (isTextKey ·.1) := by
  unfold strangers
  rw [Bool.eq_iff_iff, List.all_eq_true, List.all_eq_true]
  constructor
  · intro h entry he
    by_cases hs : (sectionNames.map Key.text).contains entry.1 = true
    · obtain ⟨name, -, hk⟩ := List.mem_map.mp (List.contains_iff_mem.mp hs)
      rw [← hk]
      rfl
    · exact h entry (List.mem_filter.mpr ⟨he, by simpa using hs⟩)
  · intro h entry he
    exact h entry (List.mem_filter.mp he).1

theorem strangers_merge (lower upper : Entries Key Value) :
    strangers (merge lower upper) = merge (strangers lower) (strangers upper) := by
  have hp : Key.Respects fun k => !(sectionNames.map Key.text).contains k :=
    Key.respects_of_const (b := true) fun k hk => by simp [sectionNames, hk]
  exact filter_merge hp lower upper

def isMap : Value → Bool
  | .map _ => true
  | _ => false

theorem isMap_iff {v : Value} : isMap v = true ↔ ∃ m, v = .map m := by
  cases v <;> simp [isMap]

/-! ## Layers -/

/-- Where settings come from. -/
inductive Origin where
  | shared
  | workspace
  | environment
  | overrides
  deriving DecidableEq

/-- Origins of a higher rank take precedence. -/
def Origin.rank : Origin → Nat
  | .shared => 0
  | .workspace => 1
  | .environment => 2
  | .overrides => 3

/-- What each origin gives. -/
abbrev Layers := Origin → Entries Key Value

namespace Layers

def of (shared workspace environment overrides : Entries Key Value) : Layers
  | .shared => shared
  | .workspace => workspace
  | .environment => environment
  | .overrides => overrides

/-- The environment and the overrides are laid over each other first, and then over the files. -/
def stack (layer : Origin → Option Value) : Option Value :=
  atop (atop (layer .shared) (layer .workspace)) (atop (layer .environment) (layer .overrides))

/-- The value of a leaf. -/
def value (layers : Layers) (leaf : Leaf) : Option Value :=
  stack fun origin => leaf.of (layers origin)

def strangers (layers : Layers) : Entries Key Value :=
  merge (merge (Settings.strangers (layers .shared)) (Settings.strangers (layers .workspace)))
    (merge (Settings.strangers (layers .environment)) (Settings.strangers (layers .overrides)))

end Layers

/-- The sources can be read and give these layers, in which every section is a map. -/
structure Sources.Gives (s : Sources) (layers : Layers) : Prop where
  shared : s.shared.read = .ok (layers .shared)
  workspace : s.workspace.read = .ok (layers .workspace)
  environment : s.environment.settings = .ok (layers .environment)
  overrides : layers .overrides = foldOverrides s.overrides
  /-- The keys of a map are distinct. -/
  distinct : ∀ entry ∈ s.overrides, entry.2.Clear
  sections : ∀ origin, ∀ name ∈ sectionNames, ∀ v,
    (layers origin).get? (.text name) = some v → ∃ m, v = .map m

/-- What a check of the leaves and of the other keys comes to. -/
def outcome (homes : Homes) (given : Leaf → Option Value) (others : Entries Key Value) :
    Except LoadFailure Settings :=
  if others.all (isTextKey ·.1) then
    match (checkLeaves homes given).both (fun settings _ => settings) (checkNames others) with
    | .accepted settings => .ok settings
    | .refused (c :: _) => .error c.toFailure
    | .refused [] => .error .nameNotText
    | .homeless => .error .unknownHome
  else .error .nameNotText

namespace Sources.Gives

variable {s : Sources} {layers : Layers}

theorem distinctLayer (h : s.Gives layers) (origin : Origin) : Distinct (layers origin) := by
  cases origin with
  | shared => exact File.distinct h.shared
  | workspace => exact File.distinct h.workspace
  | environment => exact Environment.distinct h.environment
  | overrides =>
    rw [h.overrides]
    exact foldOverrides_distinct h.distinct

theorem isSection (h : s.Gives layers) (origin : Origin) {name : String} (hn : name ∈ sectionNames)
    (field : String) : IsSection field ((layers origin).get? (.text name)) := by
  intro v hv
  obtain ⟨m, rfl⟩ := h.sections origin name hn v hv
  exact ⟨m, rfl, (h.distinctLayer origin).fields name hn _ hv m rfl field⟩

theorem combined_eq (h : s.Gives layers) : s.combined = .ok
    (merge (merge (layers .shared) (layers .workspace))
      (merge (layers .environment) (layers .overrides))) := by
  unfold combined
  rw [h.shared, h.workspace, h.environment, h.overrides]
  rfl

/-- What is under the name of a section when all layers are laid over each other. -/
theorem get?_combined (h : s.Gives layers) {name : String} (hn : name ∈ sectionNames) :
    (merge (merge (layers .shared) (layers .workspace))
        (merge (layers .environment) (layers .overrides))).get? (.text name) =
      Layers.stack fun origin => (layers origin).get? (.text name) := by
  have honce := fun origin => (h.distinctLayer origin).sections name hn
  rw [merge_get? (once_merge (honce .environment) _), merge_get? (honce .workspace),
    merge_get? (honce .overrides)]
  rfl

theorem of_combined (h : s.Gives layers) (leaf : Leaf) :
    leaf.of (merge (merge (layers .shared) (layers .workspace))
      (merge (layers .environment) (layers .overrides))) = layers.value leaf := by
  have hsection := fun origin => h.isSection origin leaf.inSection_mem leaf.field
  have hfiles := (hsection .shared).atop (hsection .workspace)
  have hupper := (hsection .environment).atop (hsection .overrides)
  unfold Leaf.of Layers.value Layers.stack
  rw [h.get?_combined leaf.inSection_mem, Layers.stack, fieldOf_atop hfiles hupper,
    fieldOf_atop (hsection .shared) (hsection .workspace),
    fieldOf_atop (hsection .environment) (hsection .overrides)]
  rfl

theorem sections_combined (h : s.Gives layers) : ∀ name ∈ sectionNames, ∀ v,
    (merge (merge (layers .shared) (layers .workspace))
      (merge (layers .environment) (layers .overrides))).get? (.text name) = some v →
    ∃ m, v = .map m := by
  intro name hn v hv
  have hsection := fun origin => h.isSection origin hn ""
  rw [h.get?_combined hn] at hv
  obtain ⟨m, hm, -⟩ := (((hsection .shared).atop (hsection .workspace)).atop
    ((hsection .environment).atop (hsection .overrides))) v hv
  exact ⟨m, hm⟩

/-- **What loading comes to is settled leaf by leaf.** -/
theorem load_eq (h : s.Gives layers) :
    load s = outcome s.home layers.value layers.strangers := by
  have hcheck := checkAll_eq s.home h.sections_combined
  have hvalue : (fun leaf => Leaf.of leaf (merge (merge (layers .shared) (layers .workspace))
      (merge (layers .environment) (layers .overrides)))) = layers.value := funext h.of_combined
  rw [hvalue] at hcheck
  unfold load outcome
  rw [h.combined_eq]
  simp only [Layers.strangers, ← strangers_merge, all_isTextKey_strangers, checkNames_strangers]
  simp only [bind, Except.bind, checkStrictly, hcheck]
  generalize merge (merge (layers .shared) (layers .workspace))
    (merge (layers .environment) (layers .overrides)) = entries
  cases entries.all (isTextKey ·.1) with
  | false => rfl
  | true =>
    generalize (checkLeaves s.home layers.value).both _ _ = checked
    rcases checked with _ | (_ | _) | _ <;> rfl

end Sources.Gives

/-! ## Precedence -/

namespace Layers

variable {layers layers' : Layers} {leaf : Leaf}

theorem value_none (h : ∀ origin, leaf.of (layers origin) = none) : layers.value leaf = none := by
  simp [value, stack, h]

/-- The value of the highest origin counts if it is no map. -/
theorem value_highest {origin : Origin} {v : Value} (hv : leaf.of (layers origin) = some v)
    (hmap : ∀ m, v ≠ .map m)
    (hhigher : ∀ origin', origin.rank < origin'.rank → leaf.of (layers origin') = none) :
    layers.value leaf = some v := by
  have hhides := fun lower => atop_of_not_map lower hmap
  simp only [value, stack]
  cases origin with
  | shared =>
    rw [hv, hhigher .workspace (by decide), hhigher .environment (by decide),
      hhigher .overrides (by decide)]
    rfl
  | workspace =>
    rw [hv, hhides, hhigher .environment (by decide), hhigher .overrides (by decide)]
    rfl
  | environment => rw [hv, hhigher .overrides (by decide), atop_none_right, hhides]
  | overrides => rw [hv, hhides, hhides]

/-- Two sets of layers differ at most below an origin, and there in one leaf. -/
structure SameBut (layers : Layers) (leaf : Leaf) (origin : Origin) (layers' : Layers) : Prop where
  above : ∀ origin', origin.rank ≤ origin'.rank → layers' origin' = layers origin'
  others : ∀ origin', Settings.strangers (layers' origin') = Settings.strangers (layers origin')
  leaves : ∀ origin', ∀ leaf' ≠ leaf, leaf'.of (layers' origin') = leaf'.of (layers origin')

theorem SameBut.strangers_eq {origin : Origin} (h : layers.SameBut leaf origin layers') :
    layers'.strangers = layers.strangers := by
  simp only [strangers, h.others]

/-- What is no map hides the leaf in all lower origins. The overrides are laid over the environment
before the files are looked at, so a map among them shows what the environment should hide. -/
theorem SameBut.value_eq {origin : Origin} (h : layers.SameBut leaf origin layers') {v : Value}
    (hv : leaf.of (layers origin) = some v) (hmap : ∀ m, v ≠ .map m)
    (hover : origin = .environment → ∀ m, leaf.of (layers .overrides) ≠ some (.map m)) :
    layers'.value = layers.value := by
  funext leaf'
  by_cases hl : leaf' = leaf
  · subst hl
    have hhides := fun lower => atop_of_not_map lower hmap
    simp only [value, stack]
    cases origin with
    | shared =>
      rw [h.above .shared (by decide), h.above .workspace (by decide),
        h.above .environment (by decide), h.above .overrides (by decide)]
    | workspace =>
      rw [h.above .workspace (by decide), h.above .environment (by decide),
        h.above .overrides (by decide), hv, hhides, hhides]
    | environment =>
      rw [h.above .environment (by decide), h.above .overrides (by decide), hv]
      cases hk : leaf'.of (layers .overrides) with
      | none => rw [atop_none_right, hhides, hhides]
      | some w =>
        have hw : ∀ m, w ≠ .map m := by
          rintro m rfl
          exact hover rfl m hk
        rw [atop_of_not_map _ hw, atop_of_not_map _ hw, atop_of_not_map _ hw]
    | overrides => rw [h.above .overrides (by decide), hv, hhides, hhides, hhides, hhides]
  · unfold value
    simp only [h.leaves _ leaf' hl]

end Layers

/-- **Precedence, leaf by leaf.** Loading checks the value of each leaf. If no origin gives the
leaf, it has its default; if the highest origin that gives it gives something else than a map, that
is its value; and maps are laid over each other. So what is no map hides the leaf in all lower
origins: loading comes to the same whatever they have there. The one exception is a value in the
environment under a map in the overrides. -/
theorem leaves_take_precedence {s : Sources} {layers : Layers} (h : s.Gives layers) :
    load s = outcome s.home layers.value layers.strangers ∧
    (∀ leaf : Leaf, (∀ origin, leaf.of (layers origin) = none) → layers.value leaf = none) ∧
    (∀ (leaf : Leaf) (origin : Origin) (v : Value), leaf.of (layers origin) = some v →
      (∀ m, v ≠ .map m) →
      (∀ higher : Origin, origin.rank < higher.rank → leaf.of (layers higher) = none) →
      layers.value leaf = some v) ∧
    ∀ (s' : Sources) (layers' : Layers) (leaf : Leaf) (origin : Origin) (v : Value),
      s'.Gives layers' → s'.home = s.home → layers.SameBut leaf origin layers' →
      leaf.of (layers origin) = some v → (∀ m, v ≠ .map m) →
      (origin = .environment → ∀ m, leaf.of (layers .overrides) ≠ some (.map m)) →
      load s' = load s := by
  refine ⟨h.load_eq, fun leaf => Layers.value_none, fun leaf origin v => Layers.value_highest, ?_⟩
  intro s' layers' leaf origin v h' hhome hsame hv hmap hover
  rw [h'.load_eq, h.load_eq, hhome, hsame.value_eq hv hmap hover, hsame.strangers_eq]

/-- Whatever the workspace has for the retries, those of the caller count. -/
theorem leaves_take_precedence_retries :
    let absent : File := ⟨"settings.yaml", none⟩
    let s : Sources := {
      home := "/"
      shared := absent
      workspace := absent
      overrides := [(.text "index", .record [("max_retries", .int 5)])] }
    load { s with workspace := ⟨"settings.yaml", some "index:\n  max_retries: 7"⟩ } = load s := by
  intro absent s
  let file : File := ⟨"settings.yaml", some "index:\n  max_retries: 7"⟩
  -- What the file gives is looked at only as far as the theorem asks.
  have hfile : file.read.toOption.any (fun entries =>
      (strangers entries).isEmpty && (Leaf.of .level entries).isNone &&
        (Leaf.of .outputs entries).isNone && (Leaf.of .interval entries).isNone &&
        sectionNames.all fun name => (entries.get? (.text name)).all isMap) = true := by
    decide +kernel
  cases hread : file.read with
  | error e => simp [hread, Except.toOption] at hfile
  | ok entries =>
    simp only [hread, Except.toOption, Option.any_some, Bool.and_eq_true, List.isEmpty_iff,
      Option.isNone_iff_eq_none, List.all_eq_true] at hfile
    obtain ⟨⟨⟨⟨hstrangers, hlevel⟩, houtputs⟩, hinterval⟩, hsections⟩ := hfile
    have hmaps : ∀ name ∈ sectionNames, ∀ v, entries.get? (.text name) = some v →
        ∃ m, v = .map m := by
      intro name hn v hv
      have hcase := hsections name hn
      rw [hv] at hcase
      exact isMap_iff.mp hcase
    have hlower : "index".toLower = "index" := by decide +kernel
    have hgives : ∀ (file : File) (entries : Entries Key Value), file.read = .ok entries →
        (∀ name ∈ sectionNames, ∀ v, entries.get? (.text name) = some v → ∃ m, v = .map m) →
        ({ s with workspace := file } : Sources).Gives (.of [] entries [] s.overrides) := by
      intro file entries hread hmaps
      refine ⟨rfl, hread, rfl, ?_, ?_, ?_⟩
      · simp [Layers.of, s, foldOverrides, overrideOf?, sectionNames, Entries.get?, hlower]
      · intro entry hentry m hm name
        rw [List.mem_singleton.mp hentry] at hm
        cases hm
        exact Entries.once_of_nodup (by simp [Entries.keys]) _
      · intro origin name hn v hv
        cases origin with
        | workspace => exact hmaps name hn v hv
        | shared | environment => cases hv
        | overrides =>
          simp only [Layers.of, s, Entries.get?, Option.ite_none_right_eq_some,
            Option.some.injEq] at hv
          exact ⟨_, hv.2.symm⟩
    have hsame : (Layers.of [] [] [] s.overrides).SameBut .retries .overrides
        (.of [] entries [] s.overrides) := by
      refine ⟨?_, ?_, ?_⟩
      · intro origin hrank
        cases origin with
        | overrides => rfl
        | shared | workspace | environment => exact absurd hrank (by decide)
      · intro origin
        cases origin with
        | workspace => exact hstrangers
        | shared | environment | overrides => rfl
      · intro origin leaf hleaf
        cases origin with
        | workspace =>
          cases leaf with
          | level => exact hlevel
          | outputs => exact houtputs
          | interval => exact hinterval
          | retries => exact absurd rfl hleaf
        | shared | environment | overrides => rfl
    exact (leaves_take_precedence (hgives absent [] rfl (by simp [Entries.get?]))).2.2.2 _ _ .retries
      .overrides (.int 5) (hgives file entries hread hmaps) rfl hsame rfl (by simp) (by simp)

/-- The text of a value that was not accepted. -/
def refusedText (s : Sources) : Option String :=
  match load s with
  | .error (.problem p) => (p.details.lookup "value").map Value.written
  | _ => none

/-- Of two maps for a leaf the upper one does not hide the lower one. And it does not even if the
value between them is no map. -/
theorem maps_show_through :
    let file := fun key =>
      (⟨"settings.yaml", some (.text ("index:\n  max_retries:\n    " ++ key))⟩ : File)
    let absent : File := ⟨"settings.yaml", none⟩
    let both : Sources := { home := "/", shared := file "a: 1", workspace := file "b: 2" }
    let parted : Sources := { both with
      workspace := absent
      environment := [("PERLSCOPE__INDEX__MAX_RETRIES", "5")]
      overrides := [(.text "index", .record [("max_retries", .record [("b", .int 2)])])] }
    (refusedText both = some "\x7b'a': 1, 'b': 2\x7d" ∧
      refusedText { both with shared := absent } = some "\x7b'b': 2\x7d") ∧
    refusedText parted = some "\x7b'a': 1, 'b': 2\x7d" ∧
      refusedText { parted with shared := absent } = some "\x7b'b': 2\x7d" := by
  decide +kernel

end PerlSymbols.Settings
