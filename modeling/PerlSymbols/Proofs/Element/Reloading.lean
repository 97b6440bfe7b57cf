import PerlSymbols.Element.Loading
import PerlSymbols.Proofs.Results

/-!
# Loading an element again

Each field is read by a conversion of its own, and each conversion leaves alone what it gives: a
text field gives a text, a line a whole number, the parameters a list or nothing, and a tag is a
kind, or a value that is no code. So the fields of a loaded element load as the same element.
-/

namespace PerlSymbols

/-! ## Conversions -/

namespace Tag

/-- A tag is raw only if no code stands in its place. -/
def IsProper : Tag → Prop
  | .known _ => True
  | .raw v => ∀ kind : Kind, v ≠ .text kind.code

theorem isProper_ofValue (v : Value) : (ofValue v).IsProper := by
  cases v with
  | text s =>
    rw [ofValue]
    cases hcode : Kind.ofCode? s with
    | some kind => trivial
    | none =>
      rintro kind ⟨⟩
      rw [Kind.ofCode?_eq_some.mpr rfl] at hcode
      cases hcode
  | null | bool | int | float | stamp | list | map => intro kind hcode; cases hcode

theorem ofValue_toValue {tag : Tag} (h : tag.IsProper) : ofValue tag.toValue = tag := by
  cases tag with
  | known kind => exact ofValue_toValue_known kind
  | raw v =>
    cases v with
    | text s =>
      have hnone : Kind.ofCode? s = none := by
        rw [Option.eq_none_iff_forall_ne_some]
        intro kind hkind
        exact h kind (by rw [Kind.ofCode?_eq_some.mp hkind])
      simp [toValue, ofValue, hnone]
    | null | bool | int | float | stamp | list | map => rfl

end Tag

theorem Value.toLabel_text (s : String) : (Value.text s).toLabel = .ok s := by
  by_cases hs : s = ""
  · subst hs
    rfl
  · simp [toLabel, toText, isGiven, isWritable, written, hs]

namespace Element

/-! ## What a map has to give -/

/-- The element is what the map gives, field by field. -/
structure ReadFrom (entries : Entries Key Value) (e : Element) : Prop where
  name : ∃ v, entries.get? (.text "name") = some v ∧ v.toText = .ok e.name
  tag : Tag.ofValue (pick entries ["kind", "type"] (.text "")) = e.tag
  typeDetail : (pick entries ["type_detail", "typeDetail"] (.text "")).toLabel = .ok e.typeDetail
  package : (pick entries ["package"] (.text "")).toLabel = .ok e.package
  value : (pick entries ["value"] (.text "")).toLabel = .ok e.value
  line : (pick entries ["line"] (.int 0)).toLine = .ok e.line
  lineEnd : (pick entries ["line_end", "lineEnd"] (.int 0)).toLine = .ok e.lineEnd
  uri : (pick entries ["uri"] (.text "")).toLabel = .ok e.uri
  signature : (pick entries ["signature"] .null).toSignature = .ok e.signature

theorem ofEntries_eq_ok {entries : Entries Key Value} {e : Element} :
    ofEntries entries = .ok e ↔ ReadFrom entries e := by
  unfold ofEntries
  constructor
  · intro h
    dsimp only at h
    split at h
    · next v hname =>
      obtain ⟨name, htext, h⟩ := bind_eq_ok.mp h
      obtain ⟨typeDetail, htypeDetail, h⟩ := bind_eq_ok.mp h
      obtain ⟨package, hpackage, h⟩ := bind_eq_ok.mp h
      obtain ⟨value, hvalue, h⟩ := bind_eq_ok.mp h
      obtain ⟨line, hline, h⟩ := bind_eq_ok.mp h
      obtain ⟨lineEnd, hlineEnd, h⟩ := bind_eq_ok.mp h
      obtain ⟨uri, huri, h⟩ := bind_eq_ok.mp h
      obtain ⟨signature, hsignature, h⟩ := bind_eq_ok.mp h
      cases h
      exact ⟨⟨v, hname, htext⟩, rfl, htypeDetail, hpackage, hvalue, hline, hlineEnd, huri,
        hsignature⟩
    · cases h
  · intro h
    obtain ⟨v, hname, htext⟩ := h.name
    rw [hname, h.line, h.lineEnd, h.signature, h.tag, h.typeDetail, h.package, h.value, h.uri]
    change (v.toText >>= fun name => Except.ok { e with name }) = .ok e
    rw [htext]
    rfl

theorem ofValue_eq_ok {v : Value} {e : Element} :
    ofValue v = .ok e ↔ ∃ entries, v = .map entries ∧ ReadFrom entries e := by
  cases v with
  | map entries => simp [ofValue, ofEntries_eq_ok]
  | null | bool | int | float | text | stamp | list => simp [ofValue]

/-! ## Fields -/

/-- The other name of a field that has two. -/
def secondSpelling : String → String
  | "kind" => "type"
  | "type_detail" => "typeDetail"
  | "line_end" => "lineEnd"
  | name => name

/-- The fields, each under the name that is chosen for it. -/
def spelled (second : String → Bool) (e : Element) : Value :=
  .record (e.toFields.map fun (name, v) => (if second name then secondSpelling name else name, v))

theorem toSignature_field (signature : Option (List Value)) :
    (match signature with | some items => Value.list items | none => Value.null).toSignature =
      .ok signature := by
  cases signature <;> rfl

theorem ofValue_spelled {e : Element} (h : e.tag.IsProper) (second : String → Bool) :
    ofValue (e.spelled second) = .ok e := by
  have hone : ∀ name, secondSpelling name = name →
      (if second name then secondSpelling name else name) = name := by
    intro name hname
    rw [hname, ite_self]
  refine ofValue_eq_ok.mpr ⟨_, rfl, ?_⟩
  simp only [toFields, List.map_cons, List.map_nil, hone "name" rfl, hone "package" rfl,
    hone "value" rfl, hone "line" rfl, hone "uri" rfl, hone "signature" rfl]
  -- Three fields have two names, and each of them is found under either.
  cases second "kind" <;> cases second "type_detail" <;> cases second "line_end" <;> exact {
    name := ⟨_, rfl, rfl⟩
    tag := Tag.ofValue_toValue h
    typeDetail := Value.toLabel_text e.typeDetail
    package := Value.toLabel_text e.package
    value := Value.toLabel_text e.value
    line := rfl
    lineEnd := rfl
    uri := Value.toLabel_text e.uri
    signature := toSignature_field e.signature }

/-! ## The theorem -/

/-- **Loading is idempotent.** The fields of a loaded element load as the same element, whichever
names they are given under. The elements that can be loaded are those with a proper tag. -/
theorem loading_idempotent (e : Element) :
    (∀ v, ofValue v = .ok e →
      ofValue (.record e.toFields) = .ok e ∧ ∀ second, ofValue (e.spelled second) = .ok e) ∧
    ((∃ v, ofValue v = .ok e) ↔ e.tag.IsProper) := by
  have hproper : ∀ v, ofValue v = .ok e → e.tag.IsProper := by
    intro v h
    obtain ⟨entries, -, hread⟩ := ofValue_eq_ok.mp h
    rw [← hread.tag]
    exact Tag.isProper_ofValue _
  refine ⟨?_, ?_, ?_⟩
  · intro v h
    exact ⟨ofValue_spelled (hproper v h) fun _ => false, ofValue_spelled (hproper v h)⟩
  · rintro ⟨v, h⟩
    exact hproper v h
  · intro h
    exact ⟨_, ofValue_spelled h fun _ => false⟩

/-- A name that is a number, a tag that is no code, lines written as a text and with a fraction, and
parameters given as one text. -/
def oddRecord : Value :=
  .record [("name", .int 7), ("type", .text "Q"), ("typeDetail", .bool true), ("uri", .int 0),
    ("line", .text " +1_2 "), ("lineEnd", .float (-7.9)), ("signature", .text "ab")]

def oddElement : Element where
  name := "7"
  tag := .raw (.text "Q")
  typeDetail := "True"
  line := 12
  lineEnd := -7
  signature := some [.text "a", .text "b"]

theorem loading_idempotent_odd :
    ofValue oddRecord = .ok oddElement ∧ ofValue (.record oddElement.toFields) = .ok oddElement ∧
      ofValue (oddElement.spelled fun _ => true) = .ok oddElement := by
  have hload : ofValue oddRecord = .ok oddElement := by
    refine ofValue_eq_ok.mpr ⟨_, rfl, ⟨_, rfl, ?_⟩, rfl, ?_, rfl, rfl, ?_, ?_, rfl, rfl⟩
    all_goals decide +kernel
  obtain ⟨hsame, hspelled⟩ := (loading_idempotent oddElement).1 oddRecord hload
  exact ⟨hload, hsame, hspelled _⟩

end Element

end PerlSymbols
