import PerlSymbols.Proofs.Session.Hovering

/-!
# When a hover shows nothing

A hover that does not fail shows nothing exactly when its symbol stands for no element, or for one
of the few elements without a text. Every other text has something in it, whatever the element has:
each kind puts words of its own around names and values that may be empty. An element of an unknown
kind is shown too, and the log has a warning of it.
-/

namespace PerlSymbols

/-! ## What a request writes on its way -/

namespace Traced

variable {ε α β : Type}

/-- The warnings among the log records. -/
def warnings (x : Traced ε α) : List Record :=
  x.records.filter fun r => r.level == .warning

@[simp]
theorem warnings_pure (a : α) : (pure a : Traced ε α).warnings = [] := rfl

@[simp]
theorem warnings_ofExcept (x : Except ε α) : (ofExcept x).warnings = [] := rfl

theorem warnings_bind (x : Traced ε α) (f : α → Traced ε β) :
    (x >>= f).warnings = x.warnings ++ match x.outcome with
      | .ok a => (f a).warnings
      | .error _ => [] := by
  obtain ⟨steps, outcome⟩ := x
  cases outcome with
  | ok a =>
    show ((steps ++ (f a).steps).filterMap _).filter _ = _
    rw [List.filterMap_append, List.filter_append]
    rfl
  | error e => exact (List.append_nil _).symm

theorem warnings_bind_ok {x : Traced ε α} {a : α} (h : x.outcome = .ok a) (f : α → Traced ε β) :
    (x >>= f).warnings = x.warnings ++ (f a).warnings := by
  rw [warnings_bind, h]

theorem warnings_bind_eq_nil {x : Traced ε α} {f : α → Traced ε β} (hx : x.warnings = [])
    (hf : ∀ a, (f a).warnings = []) : (x >>= f).warnings = [] := by
  rw [warnings_bind, hx]
  split
  · exact hf _
  · rfl

theorem outcome_bind_ok {x : Traced ε α} {a : α} (h : x.outcome = .ok a) (f : α → Traced ε β) :
    (x >>= f).outcome = (f a).outcome := by
  rw [outcome_bind, h]
  rfl

/-- A computation that does not fail goes through each of its parts. -/
theorem exists_of_not_fails_bind {x : Traced ε α} {f : α → Traced ε β}
    (h : ¬ Fails (x >>= f).outcome) : ∃ a, x.outcome = .ok a ∧ ¬ Fails (f a).outcome := by
  rw [outcome_bind, fails_bind, not_or, not_fails_iff] at h
  obtain ⟨⟨a, ha⟩, hf⟩ := h
  exact ⟨a, ha, fun hfails => hf ⟨a, ha, hfails⟩⟩

end Traced

theorem resolve_warnings (doc : Document) (modules : ModuleMap) (symbol : String) (line : Int) :
    (resolve doc modules symbol line).warnings = [] := by
  unfold resolve
  split
  · rfl
  · split
    · rfl
    · refine Traced.warnings_bind_eq_nil rfl ?_
      intro found
      split
      · rfl
      · exact Traced.warnings_bind_eq_nil rfl fun _ => rfl

theorem Refine.fromDefining_warnings (e : Element) (requestUri : String)
    (loader : Option Loader) : (fromDefining e requestUri loader).warnings = [] := by
  unfold fromDefining
  split
  · rfl
  · split
    · rfl
    · refine Traced.warnings_bind_eq_nil rfl ?_
      intro _
      split
      · exact Traced.warnings_bind_eq_nil rfl fun _ => rfl
      · split <;> rfl

theorem refine_warnings (e : Element) (doc : Document) (requestUri : String)
    (loader : Option Loader) : (refine e doc requestUri loader).warnings = [] := by
  unfold refine
  split
  · split <;> rfl
  · split
    · rfl
    · split
      · rfl
      · split
        · rfl
        · exact Refine.fromDefining_warnings e requestUri loader

/-! ## Kinds -/

/-- A tag is known exactly if it was given by a code. -/
theorem Tag.isKnown_ofValue (v : Value) :
    (Tag.ofValue v).isKnown = true ↔ ∃ kind : Kind, v = .text kind.code := by
  cases v with
  | text s =>
    simp only [Tag.ofValue]
    split
    · next kind hkind => exact iff_of_true rfl ⟨kind, by rw [Kind.ofCode?_eq_some.mp hkind]⟩
    · next hnone =>
      refine iff_of_false (by simp [Tag.isKnown]) ?_
      rintro ⟨kind, he⟩
      rw [Kind.ofCode?_eq_some.mpr (Value.text.inj he).symm] at hnone
      cases hnone
  | null | bool | int | float | stamp | list | map => simp [Tag.ofValue, Tag.isKnown]

/-! ## Texts -/

/-- An element without a text: routes and subs that are only outlined, and a local variable of
unknown type, unless it is `$self`. -/
def Element.IsSilent (e : Element) (symbol : String) : Prop :=
  e.tag = .known .httpRoute ∨ e.tag = .known .outlineOnlySub ∨
    e.tag = .known .localVar ∧ e.typeDetail = "" ∧ ¬ "$self".toList <+: symbol.toList

namespace Hover

theorem objectText?_ne_empty {symbol text : String} {kind : Kind} {e : Element}
    (h : objectText? symbol kind e = some text) : text ≠ "" := by
  unfold objectText? at h
  split at h
  · cases h
  · split at h
    · cases h
      simp
    · split at h
      · cases h
        simp
      · cases h

theorem objectText?_localVar (symbol : String) (e : Element) :
    objectText? symbol .localVar e = none ↔
      e.typeDetail = "" ∧ ¬ "$self".toList <+: symbol.toList := by
  have hobject : ¬ (!Kind.isObject .localVar) = true := by decide
  rw [← List.isPrefixOf_iff_prefix, objectText?, if_neg hobject]
  split
  · next hdetail =>
    refine iff_of_false (by simp) ?_
    rintro ⟨hempty, -⟩
    simp [hempty] at hdetail
  · next hdetail =>
    have hempty : e.typeDetail = "" := by simpa using hdetail
    split
    · next hself => exact iff_of_false (by simp) fun h => h.2 hself
    · next hself => exact iff_of_true rfl ⟨hempty, hself⟩

theorem tagged_ne_empty (word symbol : String) : tagged word symbol ≠ "" := by
  unfold tagged
  simp

theorem importedText_ne_empty (name parameters : String) (e : Element) :
    importedText name parameters e ≠ "" := by
  unfold importedText
  simp

/-- Of all kinds, the silent ones alone have an empty text. -/
theorem kindText_eq_empty {symbol name parameters text : String} {kind : Kind} {e : Element}
    (h : kindText symbol kind e name parameters = .ok text) :
    text = "" ↔ kind.isSilent = true := by
  cases kind with
  | localVar | httpRoute | outlineOnlySub =>
    cases h
    exact iff_of_true rfl rfl
  | importedSub | inherited =>
    cases h
    exact iff_of_false (importedText_ne_empty name parameters e) (by decide)
  | localSub | localMethod | method | importedVar | importedHash | package =>
    cases h
    exact iff_of_false (by simp) (by decide)
  | canonical | constant | label | classDef | role | field | pathedField | phaser | autoloadVar =>
    cases h
    exact iff_of_false (tagged_ne_empty _ symbol) (by decide)
  | module =>
    simp only [kindText] at h
    cases hpath : (Uri.displayPath e.uri).mapError RequestError.uri with
    | error err =>
      rw [hpath] at h
      cases h
    | ok path =>
      rw [hpath] at h
      cases h
      exact iff_of_false (by simp) (by decide)

/-- The warning of an element of an unknown kind. -/
def unknownKind (symbol : String) (v : Value) (e : Element) : Record where
  level := .warning
  event := "unknown_symbol_kind"
  fields := [("symbol", .text symbol), ("kind", .text v.written), ("name", .text e.name)]

/-- The warnings about an element that is shown. -/
def warningsOf (symbol : String) (e : Element) : List Record :=
  match e.tag with
  | .known _ => []
  | .raw v => [unknownKind symbol v e]

theorem exists_warningsOf (symbol : String) (e : Element) :
    (∃ r ∈ warningsOf symbol e, r.event = "unknown_symbol_kind") ↔ e.tag.isKnown = false := by
  unfold warningsOf
  cases e.tag with
  | known kind => simp [Tag.isKnown]
  | raw v => simp [Tag.isKnown, unknownKind]

end Hover

/-! ### The text of an element -/

section Text

variable {symbol text name parameters : String} {e : Element} {refined : Option Element}

theorem hoverText_known {kind : Kind} (htag : e.tag = .known kind)
    (hname : Hover.nameAndParameters symbol e refined = .ok (name, parameters)) :
    hoverText symbol e refined = match Hover.objectText? symbol kind e with
      | some text => pure text
      | none => Traced.ofExcept (Hover.kindText symbol kind e name parameters) := by
  simp only [hoverText, hname, htag]
  rfl

theorem hoverText_raw {v : Value} (htag : e.tag = .raw v)
    (hname : Hover.nameAndParameters symbol e refined = .ok (name, parameters)) :
    hoverText symbol e refined =
      if v.isComposite then throw .compositeTag
      else ⟨[.log (Hover.unknownKind symbol v e)], .ok ("Unknown: " ++ symbol)⟩ := by
  simp only [hoverText, hname, htag]
  cases v.isComposite <;> rfl

theorem isSilent_known {kind : Kind} (htag : e.tag = .known kind) :
    e.IsSilent symbol ↔ Hover.objectText? symbol kind e = none ∧ kind.isSilent = true := by
  simp only [Element.IsSilent, htag, Tag.known.injEq]
  cases kind with
  | localVar => simp [Hover.objectText?_localVar, Kind.isSilent]
  | httpRoute | outlineOnlySub => simp [Hover.objectText?, Kind.isObject, Kind.isSilent]
  | _ => simp [Kind.isSilent]

/-- A text is empty for silent elements alone, and only unknown kinds are warned of. -/
theorem hoverText_ok (h : (hoverText symbol e refined).outcome = .ok text) :
    (text = "" ↔ e.IsSilent symbol) ∧
      (hoverText symbol e refined).warnings = Hover.warningsOf symbol e := by
  cases hname : Hover.nameAndParameters symbol e refined with
  | error err =>
    rw [hoverText, hname] at h
    cases h
  | ok shown =>
    obtain ⟨name, parameters⟩ := shown
    cases htag : e.tag with
    | known kind =>
      rw [isSilent_known htag]
      simp only [hoverText_known htag hname, Hover.warningsOf, htag] at h ⊢
      cases hobject : Hover.objectText? symbol kind e with
      | some text' =>
        rw [hobject] at h
        cases h
        simp [Hover.objectText?_ne_empty hobject]
      | none =>
        rw [hobject] at h
        simp [Hover.kindText_eq_empty h]
    | raw v =>
      simp only [hoverText_raw htag hname, Hover.warningsOf, htag] at h ⊢
      split at h
      · cases h
      · next hcomposite =>
        cases h
        rw [if_neg hcomposite]
        refine ⟨?_, rfl⟩
        simp [Element.IsSilent, htag]

end Text

/-! ## The whole request -/

namespace Hover

/-- What is done with the text of an element. -/
def display (symbol : String) (e : Element) (shown : String) :
    Traced RequestError (Option Contents) := do
  if shown.isEmpty then return none
  Traced.log .debug "hover_rendered" [("symbol", .text symbol), ("kind", .text (tagText e.tag))]
  return some { markup := .plainText, value := shown }

/-- What is done once the element is known. -/
def ofElement (symbol : String) (e : Element) (doc : Document) (requestUri : String)
    (loader : Option Loader) : Traced RequestError (Option Contents) := do
  let refined ← refine e doc requestUri loader
  let shown ← hoverText symbol e (refined.element? e)
  display symbol e shown

theorem display_outcome (symbol : String) (e : Element) (shown : String) :
    (display symbol e shown).outcome =
      .ok (if shown = "" then none else some ⟨.plainText, shown⟩) := by
  by_cases hempty : shown = ""
  · simp [display, hempty]
  · simp [display, hempty, bind]

theorem display_warnings (symbol : String) (e : Element) (shown : String) :
    (display symbol e shown).warnings = [] := by
  unfold display
  split
  · rfl
  · exact Traced.warnings_bind_eq_nil rfl fun _ => rfl

/-- An element whose hover does not fail has a text, which is shown unless it is empty. -/
theorem ofElement_ok {symbol : String} {e : Element} {doc : Document} {requestUri : String}
    {loader : Option Loader} (h : ¬ Fails (ofElement symbol e doc requestUri loader).outcome) :
    ∃ shown, (shown = "" ↔ e.IsSilent symbol) ∧
      (ofElement symbol e doc requestUri loader).outcome =
        .ok (if shown = "" then none else some ⟨.plainText, shown⟩) ∧
      (ofElement symbol e doc requestUri loader).warnings = warningsOf symbol e := by
  obtain ⟨refined, hrefined, h⟩ := Traced.exists_of_not_fails_bind h
  obtain ⟨shown, hshown, -⟩ := Traced.exists_of_not_fails_bind h
  obtain ⟨hempty, hwarnings⟩ := hoverText_ok hshown
  refine ⟨shown, hempty, ?_, ?_⟩
  · rw [ofElement, Traced.outcome_bind_ok hrefined, Traced.outcome_bind_ok hshown, display_outcome]
  · rw [ofElement, Traced.warnings_bind_ok hrefined, refine_warnings, List.nil_append,
      Traced.warnings_bind_ok hshown, display_warnings, List.append_nil, hwarnings]

end Hover

theorem hover_eq (requestUri : String) (position : Position) (doc : Document) (text : String)
    (modules : ModuleMap) (loader : Option Loader) :
    hover requestUri position doc text modules loader =
      resolve doc modules (Cursor.symbolAt position text) position.line >>= fun
        | none => pure none
        | some e => Hover.ofElement (Cursor.symbolAt position text) e doc requestUri loader :=
  rfl

/-- **What a hover shows.** A hover that does not fail shows nothing exactly if its symbol stands for
no element or for a silent one. Otherwise it shows a plain text that is not empty. It warns exactly
of an element of an unknown kind, and a kind is known exactly if it is one of the codes. -/
theorem hover_shows_nothing_iff (requestUri : String) (position : Position) (doc : Document)
    (text : String) (modules : ModuleMap) (loader : Option Loader)
    (h : ¬ Fails (hover requestUri position doc text modules loader).outcome) :
    let symbol := Cursor.symbolAt position text
    let resolved := (resolve doc modules symbol position.line).outcome
    let hovered := hover requestUri position doc text modules loader
    (hovered.outcome = .ok none ↔
      resolved = .ok none ∨ ∃ e, resolved = .ok (some e) ∧ e.IsSilent symbol) ∧
    (hovered.outcome ≠ .ok none →
      ∃ shown, hovered.outcome = .ok (some ⟨.plainText, shown⟩) ∧ shown ≠ "") ∧
    ((∃ r ∈ hovered.warnings, r.event = "unknown_symbol_kind") ↔
      ∃ e, resolved = .ok (some e) ∧ e.tag.isKnown = false) ∧
    ∀ v, (Tag.ofValue v).isKnown = true ↔ ∃ kind : Kind, v = .text kind.code := by
  intro symbol resolved hovered
  suffices hwhole : _ ∧ _ ∧ _ from ⟨hwhole.1, hwhole.2.1, hwhole.2.2, Tag.isKnown_ofValue⟩
  subst hovered
  rw [hover_eq] at h ⊢
  obtain ⟨found, hfound, h⟩ := Traced.exists_of_not_fails_bind h
  rw [Traced.outcome_bind_ok hfound, Traced.warnings_bind_ok hfound, resolve_warnings,
    List.nil_append, show resolved = .ok found from hfound]
  cases found with
  | none => simp
  | some e =>
    obtain ⟨shown, hempty, houtcome, hwarnings⟩ := Hover.ofElement_ok h
    simp only [houtcome, hwarnings, Hover.exists_warningsOf]
    by_cases hshown : shown = ""
    · simp [hshown, hempty.mp hshown, symbol]
    · have hloud : ¬ e.IsSilent symbol := mt hempty.mpr hshown
      simp [hshown, hloud]

/-- A variable of a kind that the indexer made up. -/
def oddVariable : Element :=
  { name := "$odd", tag := .raw (.text "zz") }

def untypedVariable : Element :=
  { name := "$x", tag := .known .localVar }

def oddDocument : Document where
  uri := "u"
  buckets := [("$odd", [oddVariable]), ("$x", [untypedVariable])]

/-- The first is shown with a warning, the second not at all. -/
theorem hover_shows_nothing_iff_odd :
    (∃ r ∈ (hover "u" ⟨0, 1⟩ oddDocument "$odd" [] none).warnings,
      r.event = "unknown_symbol_kind") ∧
    (∃ shown, (hover "u" ⟨0, 1⟩ oddDocument "$odd" [] none).outcome =
      .ok (some ⟨.plainText, shown⟩) ∧ shown ≠ "") ∧
    (hover "u" ⟨0, 1⟩ oddDocument "$x" [] none).outcome = .ok none := by
  have hodd : Cursor.symbolAt ⟨0, 1⟩ "$odd" = "$odd" := by decide +kernel
  have hx : Cursor.symbolAt ⟨0, 1⟩ "$x" = "$x" := by decide +kernel
  have hshown : (hover "u" ⟨0, 1⟩ oddDocument "$odd" [] none).outcome =
      .ok (some ⟨.plainText, "Unknown: $odd"⟩) := by
    rw [hover_eq, hodd]
    rfl
  have hhidden : (hover "u" ⟨0, 1⟩ oddDocument "$x" [] none).outcome = .ok none := by
    rw [hover_eq, hx]
    rfl
  obtain ⟨-, hshows, hwarns, -⟩ := hover_shows_nothing_iff "u" ⟨0, 1⟩ oddDocument "$odd" [] none
    (by simp [hshown])
  obtain ⟨hnothing, -⟩ := hover_shows_nothing_iff "u" ⟨0, 1⟩ oddDocument "$x" [] none
    (by simp [hhidden])
  rw [hodd] at hwarns
  rw [hx] at hnothing
  refine ⟨hwarns.mpr ⟨oddVariable, rfl, rfl⟩, hshows (by simp [hshown]), hnothing.mpr ?_⟩
  exact Or.inr ⟨untypedVariable, rfl, Or.inr (Or.inr ⟨rfl, rfl, by decide⟩)⟩

end PerlSymbols
