import PerlSymbols.Proofs.Text.Utf8
import PerlSymbols.Proofs.Uri.Parts

/-!
# Paths there and back

A path is written into a URI with escapes for the octets of all characters but a few that are safe
everywhere. Read back, the path is the one that was written, whatever characters it has; a drive
alone loses the slash in front of it.
-/

namespace PerlSymbols.Uri

open Text.Utf8 (encodeChar readAll)

/-! ## Writing -/

/-- Letters, digits and four signs mean themselves in every part of a URI. -/
def isUnreserved (c : Char) : Bool :=
  c.isAlphanum || c == '-' || c == '.' || c == '_' || c == '~'

def isKept (c : Char) : Bool :=
  isUnreserved c || c == '/'

def hexDigit (capital : Bool) (n : Nat) : Char :=
  if capital then n.digitChar.toUpper else n.digitChar

def escapeOctet (capital : Bool) (b : UInt8) : List Char :=
  ['%', hexDigit capital (b.toNat / 16), hexDigit capital (b.toNat % 16)]

def escapeChar (capital : Bool) (c : Char) : List Char :=
  if isKept c then [c] else (encodeChar c).flatMap (escapeOctet capital)

/-- A path with escapes, in capital or in small hexadecimal digits. -/
def escape (capital : Bool) (path : List Char) : List Char :=
  path.flatMap (escapeChar capital)

/-! ## The characters that are written -/

theorem isKept_hexDigit : ∀ capital, ∀ n < 16, isKept (hexDigit capital n) = true := by decide

theorem hexValue?_hexDigit :
    ∀ capital, ∀ n < 16, Json.hexValue? (hexDigit capital n) = some n := by decide

theorem isKept_or_percent_of_mem_escape {capital : Bool} {path : List Char} {c : Char}
    (h : c ∈ escape capital path) : isKept c = true ∨ c = '%' := by
  obtain ⟨d, -, hd⟩ := List.mem_flatMap.mp h
  unfold escapeChar at hd
  split at hd
  · next hkept =>
    rw [List.mem_singleton] at hd
    exact Or.inl (hd ▸ hkept)
  · obtain ⟨b, -, hb⟩ := List.mem_flatMap.mp hd
    have hlt := b.toNat_lt
    simp only [escapeOctet, List.mem_cons, List.not_mem_nil, or_false] at hb
    rcases hb with rfl | rfl | rfl
    · exact Or.inr rfl
    · exact Or.inl (isKept_hexDigit capital _ (by omega))
    · exact Or.inl (isKept_hexDigit capital _ (by omega))

theorem toNat_of_isKept {c : Char} (h : isKept c = true) : 32 < c.toNat ∧ c.toNat < 128 := by
  have hval : c.toNat = c.val.toNat := rfl
  have hcodes : 'A'.val.toNat = 65 ∧ 'Z'.val.toNat = 90 ∧ 'a'.val.toNat = 97 ∧
      'z'.val.toNat = 122 ∧ '0'.val.toNat = 48 ∧ '9'.val.toNat = 57 := by decide
  have hupper : c.isUpper = decide ('A'.val ≤ c.val ∧ c.val ≤ 'Z'.val) := rfl
  have hlower : c.isLower = (decide ('a'.val ≤ c.val) && decide (c.val ≤ 'z'.val)) := rfl
  have halpha : c.isAlpha = (c.isUpper || c.isLower) := rfl
  simp only [isKept, isUnreserved, Char.isAlphanum, halpha, hupper, hlower, Char.isDigit,
    Bool.or_eq_true, Bool.and_eq_true, decide_eq_true_eq, beq_iff_eq, UInt32.le_iff_toNat_le] at h
  rcases h with ((((((h | h) | h) | rfl) | rfl) | rfl) | rfl) | rfl
  · omega
  · omega
  · omega
  all_goals decide

theorem visible_of_mem_escape {capital : Bool} {path : List Char} {c : Char}
    (h : c ∈ escape capital path) : 32 < c.toNat := by
  rcases isKept_or_percent_of_mem_escape h with hkept | rfl
  · exact (toNat_of_isKept hkept).1
  · decide

/-! ## Reading -/

theorem octet?_hexDigit (capital : Bool) (b : UInt8) :
    octet? (hexDigit capital (b.toNat / 16)) (hexDigit capital (b.toNat % 16)) = some b := by
  have hlt := b.toNat_lt
  have hsum : b.toNat / 16 * 16 + b.toNat % 16 = b.toNat := by omega
  unfold octet?
  rw [hexValue?_hexDigit capital _ (by omega), hexValue?_hexDigit capital _ (by omega)]
  show some (UInt8.ofNat (b.toNat / 16 * 16 + b.toNat % 16)) = some b
  rw [hsum, UInt8.ofNat_toNat]

theorem unescapeFrom_escapeOctet (capital : Bool) (state : Text.Utf8.State) (b : UInt8)
    (rest : List Char) :
    unescapeFrom state (escapeOctet capital b ++ rest) =
      (Text.Utf8.step state b).1 ++ unescapeFrom (Text.Utf8.step state b).2 rest := by
  unfold escapeOctet
  simp only [List.cons_append, List.nil_append]
  rw [unescapeFrom, octet?_hexDigit]

theorem unescapeFrom_octets (capital : Bool) (state : Text.Utf8.State) (octets : List UInt8)
    (rest : List Char) :
    unescapeFrom state (octets.flatMap (escapeOctet capital) ++ rest) =
      (readAll state octets).1 ++ unescapeFrom (readAll state octets).2 rest := by
  induction octets generalizing state with
  | nil => rfl
  | cons b octets ih =>
    rw [List.flatMap_cons, List.append_assoc, unescapeFrom_escapeOctet, ih, ← List.append_assoc]
    rfl

theorem unescape_kept {c : Char} (h : isKept c = true) (rest : List Char) :
    unescape (c :: rest) = c :: unescape rest := by
  have hascii := (toNat_of_isKept h).2
  have hpercent : c ≠ '%' := by
    rintro rfl
    exact absurd h (by decide)
  unfold unescape
  rw [unescapeFrom, if_pos hascii]
  · rw [Text.Utf8.step_one (by omega), c.ofNat_toNat]
    rfl
  · intro high low after hc
    exact absurd hc hpercent

theorem unescape_escapeChar (capital : Bool) (c : Char) (rest : List Char) :
    unescape (escapeChar capital c ++ rest) = c :: unescape rest := by
  unfold escapeChar
  split
  · next hkept => exact unescape_kept hkept rest
  · rw [unescape, unescapeFrom_octets, Text.Utf8.readAll_encodeChar]
    rfl

/-- The escapes of a path stand for the path. -/
theorem unescape_escape (capital : Bool) (path : List Char) :
    unescape (escape capital path) = path := by
  induction path with
  | nil => rfl
  | cons c path ih =>
    rw [escape, List.flatMap_cons, unescape_escapeChar, ← escape, ih]

/-! ## The whole URI -/

def fileUri (capital : Bool) (path : String) : String :=
  "file://" ++ String.ofList (escape capital path.toList)

theorem strips_self {cs : List Char} (h : ∀ c ∈ cs, 32 < c.toNat) : Strips cs cs := by
  have hfilter : (cs.filter fun c => c ∉ ['\t', '\r', '\n']) = cs := by
    rw [List.filter_eq_self]
    intro c hc
    have hlow : ∀ d ∈ ['\t', '\r', '\n'], d.toNat ≤ 32 := by simp
    have hvisible := h c hc
    exact decide_eq_true fun hm => absurd (hlow c hm) (by omega)
  have hstrips : Strips ([] ++ cs) _ :=
    .intro (by simp) fun c hc => h c (List.mem_of_mem_head? hc)
  rwa [hfilter] at hstrips

theorem escape_slash (capital : Bool) (rest : List Char) :
    escape capital ('/' :: rest) = '/' :: escape capital rest := by
  have hkept : isKept '/' = true := by decide
  simp [escape, escapeChar, hkept]

theorem isScheme_file : IsScheme ['f', 'i', 'l', 'e'] := isScheme_iff.mpr (by decide)

theorem reads_fileUri (capital : Bool) {path : String} {rest : List Char}
    (h : path.toList = '/' :: rest) :
    Reads (fileUri capital path) ⟨['f', 'i', 'l', 'e'], [], escape capital path.toList⟩ := by
  have htext : (fileUri capital path).toList =
      ['f', 'i', 'l', 'e'] ++ ':' :: '/' :: '/' :: ([] ++ escape capital path.toList) := by
    simp [fileUri]
  have hletters : ∀ c ∈ ['f', 'i', 'l', 'e'], 32 < c.toNat := by simp
  have hvisible : ∀ c ∈ (fileUri capital path).toList, 32 < c.toNat := by
    intro c hc
    rw [htext] at hc
    rcases List.mem_append.mp hc with hc | hc
    · exact hletters c hc
    · simp only [List.nil_append, List.mem_cons] at hc
      rcases hc with rfl | rfl | rfl | hc
      · decide
      · decide
      · decide
      · exact visible_of_mem_escape hc
  refine ⟨(fileUri capital path).toList, '/' :: '/' :: ([] ++ escape capital path.toList),
    strips_self hvisible, ?_, .slashes (by simp) ?_⟩
  · rw [htext]
    exact .named isScheme_file
  · intro c hc
    rw [h, escape_slash] at hc
    cases hc
    simp

/-- A drive letter and a colon after the first slash. -/
def IsDrivePath (path : List Char) : Prop :=
  ∃ letter after, path = '/' :: letter :: ':' :: after ∧ letter.isAlpha = true

theorem hasDrive_iff {path : List Char} : hasDrive path = true ↔ IsDrivePath path := by
  unfold hasDrive IsDrivePath
  split
  · next letter after => simp
  · next hnot =>
    simp only [Bool.false_eq_true, false_iff, not_exists, not_and]
    intro letter after hpath
    exact absurd hpath (hnot letter after)

theorem stop_not_mem_escape {capital : Bool} {path : List Char} {c : Char}
    (h : c ∈ escape capital path) : (c != '?' && c != '#') = true := by
  have hstops : ∀ d ∈ ['?', '#'], ¬ (isKept d = true ∨ d = '%') := by simp [isKept, isUnreserved]
  by_contra hstop
  have hm : c ∈ ['?', '#'] := by
    simp only [Bool.not_eq_true, Bool.and_eq_false_iff, bne_eq_false_iff_eq] at hstop
    simpa using hstop
  exact hstops c hm (isKept_or_percent_of_mem_escape h)

theorem displayPath_fileUri (capital : Bool) {path : String} {rest : List Char}
    (h : path.toList = '/' :: rest) :
    displayPath (fileUri capital path) =
      .ok (String.ofList (if hasDrive path.toList then rest else path.toList)) := by
  have hpath : (escape capital path.toList).takeWhile (fun c => c != '?' && c != '#') =
      escape capital path.toList :=
    List.takeWhile_eq_self_iff.mpr fun c hc => stop_not_mem_escape hc
  have hreads := reads_fileUri capital h
  rw [displayPath_of_ordinary hreads (by simp [IsOrdinary])]
  have hscheme : ['f', 'i', 'l', 'e'].map Char.toLower = "file".toList := by decide
  simp only [shown, Reading.parts, hscheme, if_true, hpath, filePath, unescape_escape]
  rw [h]
  rfl

/-- **Paths there and back.** A path that starts with a slash comes back from its URI as it was, and
a path on a drive without the slash. -/
theorem file_uris_read_back (capital : Bool) (path : String) (rest : List Char)
    (h : path.toList = '/' :: rest) :
    (IsDrivePath path.toList → displayPath (fileUri capital path) = .ok (String.ofList rest)) ∧
    (¬ IsDrivePath path.toList → displayPath (fileUri capital path) = .ok path) := by
  rw [displayPath_fileUri capital h, ← hasDrive_iff]
  constructor
  · intro hdrive
    rw [if_pos hdrive]
  · intro hdrive
    rw [if_neg hdrive, String.ofList_toList]

theorem file_uris_read_back_signs :
    fileUri true "//a b/50%?#[é€𝄞].pm" =
      "file:////a%20b/50%25%3F%23%5B%C3%A9%E2%82%AC%F0%9D%84%9E%5D.pm" ∧
    displayPath (fileUri true "//a b/50%?#[é€𝄞].pm") = .ok "//a b/50%?#[é€𝄞].pm" ∧
    displayPath (fileUri false "/C:/x\ty.pm") = .ok "C:/x\ty.pm" := by
  refine ⟨by decide +kernel, ?_, ?_⟩
  · exact (file_uris_read_back true "//a b/50%?#[é€𝄞].pm" _ rfl).2 (mt hasDrive_iff.mpr (by decide))
  · exact (file_uris_read_back false "/C:/x\ty.pm" _ rfl).1 (hasDrive_iff.mp (by decide))

end PerlSymbols.Uri
