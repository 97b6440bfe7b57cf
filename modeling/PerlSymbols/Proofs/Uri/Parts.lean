import Mathlib.Data.List.TakeWhile
import PerlSymbols.Proofs.Text.Search
import PerlSymbols.Uri.Path

/-!
# The parts of a URI

Every text can be read as a URI in exactly one way: something to be left out, a scheme or none, an
authority or none, and the rest. Only the authority can make it unreadable, and one of plain ASCII
characters without brackets never does. A URI that is not one of a file is shown character by
character as it was given, with everything that was left out to read it.
-/

namespace PerlSymbols.Uri

/-! ## How a text is read -/

/-- Controls and spaces in front are left out, and then tabs and line ends. -/
inductive Strips : List Char → List Char → Prop where
  | intro {lead body : List Char} (hlead : ∀ c ∈ lead, c.toNat ≤ 32)
      (hbody : ∀ c ∈ body.head?, 32 < c.toNat) :
      Strips (lead ++ body) (body.filter fun c => c ∉ ['\t', '\r', '\n'])

/-- A letter, and then letters, digits and three signs. -/
structure IsScheme (scheme : List Char) : Prop where
  letter : ∃ c ∈ scheme.head?, c.isAlpha = true
  chars : ∀ c ∈ scheme, c.isAlphanum = true ∨ c ∈ ['+', '-', '.']

inductive SplitsScheme : List Char → List Char → List Char → Prop where
  | named {scheme rest : List Char} (h : IsScheme scheme) :
      SplitsScheme (scheme ++ ':' :: rest) scheme rest
  | none {cs : List Char} (h : ∀ scheme rest, IsScheme scheme → cs ≠ scheme ++ ':' :: rest) :
      SplitsScheme cs [] cs

/-- Two slashes stand in front of an authority, and a slash, a question mark or a number sign ends
it. -/
inductive SplitsAuthority : List Char → List Char → List Char → Prop where
  | slashes {authority rest : List Char} (hinside : ∀ c ∈ authority, c ∉ ['/', '?', '#'])
      (hrest : ∀ c ∈ rest.head?, c ∈ ['/', '?', '#']) :
      SplitsAuthority ('/' :: '/' :: (authority ++ rest)) authority rest
  | none {cs : List Char} (h : ¬ ['/', '/'] <+: cs) : SplitsAuthority cs [] cs

structure Reading where
  scheme : List Char
  authority : List Char
  rest : List Char

def Reads (uri : String) (r : Reading) : Prop :=
  ∃ stripped after, Strips uri.toList stripped ∧ SplitsScheme stripped r.scheme after ∧
    SplitsAuthority after r.authority r.rest

/-! ## Each part is there once -/

theorem span_append {p : Char → Bool} {xs ys : List Char} (hxs : ∀ c ∈ xs, p c = true)
    (hys : ∀ c ∈ ys.head?, p c = false) :
    (xs ++ ys).takeWhile p = xs ∧ (xs ++ ys).dropWhile p = ys := by
  rw [List.takeWhile_append_of_pos hxs, List.dropWhile_append_of_pos hxs]
  cases ys with
  | nil => simp
  | cons y ys =>
    have hy : p y = false := hys y rfl
    simp [hy]

theorem head?_dropWhile_eq_false {p : Char → Bool} {xs : List Char} {c : Char}
    (hc : c ∈ (xs.dropWhile p).head?) : p c = false := by
  have hnot := List.head?_dropWhile_not p xs
  rw [hc] at hnot
  exact hnot

theorem strips_iff {cs stripped : List Char} : Strips cs stripped ↔ stripped = clean cs := by
  have hfilter : (fun c : Char => decide (c ∉ ['\t', '\r', '\n'])) =
      fun c => c != '\t' && c != '\r' && c != '\n' := by
    funext c
    rw [Bool.eq_iff_iff]
    simp
    tauto
  constructor
  · rintro ⟨hlead, hbody⟩
    rw [clean, (span_append (by simpa using hlead) (by simpa using hbody)).2, hfilter]
  · rintro rfl
    have hlead : ∀ c ∈ cs.takeWhile (fun c => decide (c.toNat ≤ 32)), c.toNat ≤ 32 := by
      intro c hc
      simpa using List.mem_takeWhile_imp hc
    have hbody : ∀ c ∈ (cs.dropWhile fun c => decide (c.toNat ≤ 32)).head?, 32 < c.toNat := by
      intro c hc
      simpa using head?_dropWhile_eq_false hc
    have hstrips := Strips.intro hlead hbody
    rwa [List.takeWhile_append_dropWhile, hfilter] at hstrips

theorem inside_iff {c : Char} :
    (c != '/' && c != '?' && c != '#') = true ↔ c ∉ ['/', '?', '#'] := by
  simp [and_assoc]

theorem inside_eq_false_iff {c : Char} :
    (c != '/' && c != '?' && c != '#') = false ↔ c ∈ ['/', '?', '#'] := by
  rw [← Bool.not_eq_true, inside_iff, not_not]

theorem splitsAuthority_iff {cs authority rest : List Char} :
    SplitsAuthority cs authority rest ↔ splitAuthority cs = (authority, rest) := by
  constructor
  · rintro (⟨hinside, hrest⟩ | h)
    · have hspan := span_append (fun c hc => inside_iff.mpr (hinside c hc))
        fun c hc => inside_eq_false_iff.mpr (hrest c hc)
      simp only [splitAuthority, hspan]
    · unfold splitAuthority
      split
      · next rest' => exact absurd ⟨rest', rfl⟩ h
      · rfl
  · intro h
    unfold splitAuthority at h
    split at h
    · next rest' =>
      cases h
      have hinside : ∀ c ∈ rest'.takeWhile fun c => c != '/' && c != '?' && c != '#',
          c ∉ ['/', '?', '#'] := by
        intro c hc
        have hinside := List.mem_takeWhile_imp hc
        exact inside_iff.mp hinside
      have hrest : ∀ c ∈ (rest'.dropWhile fun c => c != '/' && c != '?' && c != '#').head?,
          c ∈ ['/', '?', '#'] := by
        intro c hc
        exact inside_eq_false_iff.mp (head?_dropWhile_eq_false hc)
      have hslashes := SplitsAuthority.slashes hinside hrest
      rwa [List.takeWhile_append_dropWhile] at hslashes
    · next hnot =>
      cases h
      refine .none ?_
      rintro ⟨rest', rfl⟩
      exact hnot rest' rfl

theorem isScheme_iff {scheme : List Char} :
    IsScheme scheme ↔ (scheme.head?.any Char.isAlpha && scheme.all isSchemeChar) = true := by
  have hchar : ∀ c, isSchemeChar c = true ↔ c.isAlphanum = true ∨ c ∈ ['+', '-', '.'] := by
    intro c
    simp [isSchemeChar, or_assoc]
  simp only [Bool.and_eq_true, Option.any_eq_true, List.all_eq_true, hchar]
  constructor
  · rintro ⟨hletter, hchars⟩
    exact ⟨hletter, hchars⟩
  · rintro ⟨hletter, hchars⟩
    exact ⟨hletter, hchars⟩

theorem IsScheme.colon_not_mem {scheme : List Char} (h : IsScheme scheme) : ':' ∉ scheme := by
  intro hm
  rcases h.chars ':' hm with halpha | hsign
  · exact absurd halpha (by decide)
  · simp at hsign

theorem SplitsScheme.eq_splitScheme {cs scheme rest : List Char} (h : SplitsScheme cs scheme rest) :
    splitScheme cs = (scheme.map Char.toLower, rest) := by
  unfold splitScheme
  cases h with
  | named h =>
    rw [Text.splitFirst?_char h.colon_not_mem]
    exact if_pos (isScheme_iff.mp h)
  | none h =>
    by_cases hm : ':' ∈ cs
    · obtain ⟨before, after, rfl, hnot⟩ := List.eq_append_cons_of_mem hm
      rw [Text.splitFirst?_char hnot]
      exact if_neg fun hbefore => h before after (isScheme_iff.mpr hbefore) rfl
    · rw [Text.splitFirst?_char_eq_none.mpr hm]
      rfl

theorem SplitsScheme.unique {cs scheme scheme' rest rest' : List Char}
    (h : SplitsScheme cs scheme rest) (h' : SplitsScheme cs scheme' rest') :
    scheme = scheme' ∧ rest = rest' := by
  cases h with
  | named h =>
    generalize htext : scheme ++ ':' :: rest = cs at h'
    cases h' with
    | named h' =>
      -- The scheme ends at the first colon.
      have hsplit := Text.splitFirst?_char h.colon_not_mem rest
      rw [htext, Text.splitFirst?_char h'.colon_not_mem rest'] at hsplit
      cases hsplit
      exact ⟨rfl, rfl⟩
    | none h' => exact absurd htext.symm (h' scheme rest h)
  | none h =>
    cases h' with
    | named h' => exact absurd rfl (h _ _ h')
    | none _ => exact ⟨rfl, rfl⟩

theorem exists_splitsScheme (cs : List Char) : ∃ scheme rest, SplitsScheme cs scheme rest := by
  by_cases h : ∃ scheme rest, IsScheme scheme ∧ cs = scheme ++ ':' :: rest
  · obtain ⟨scheme, rest, hscheme, rfl⟩ := h
    exact ⟨scheme, rest, .named hscheme⟩
  · exact ⟨[], cs, .none fun scheme rest hscheme hcs => h ⟨scheme, rest, hscheme, hcs⟩⟩

theorem exists_reads (uri : String) : ∃ r, Reads uri r ∧ ∀ r', Reads uri r' → r' = r := by
  obtain ⟨scheme, after, hscheme⟩ := exists_splitsScheme (clean uri.toList)
  obtain ⟨authority, rest, hauthority⟩ :
      ∃ authority rest, splitAuthority after = (authority, rest) := ⟨_, _, rfl⟩
  refine ⟨⟨scheme, authority, rest⟩, ⟨_, after, strips_iff.mpr rfl, hscheme,
    splitsAuthority_iff.mpr hauthority⟩, ?_⟩
  rintro ⟨scheme', authority', rest'⟩ ⟨stripped, after', hstrips, hscheme', hauthority'⟩
  obtain rfl := strips_iff.mp hstrips
  obtain ⟨rfl, rfl⟩ := hscheme'.unique hscheme
  rw [splitsAuthority_iff, hauthority] at hauthority'
  cases hauthority'
  rfl

/-! ## What is shown -/

/-- The path of a file, with the host in front if there is one. A drive stands without the slash. -/
def filePath (authority path : List Char) : String :=
  if authority = [] then
    String.ofList (if hasDrive (unescape path) then (unescape path).drop 1 else unescape path)
  else String.ofList ('/' :: '/' :: authority ++ unescape path)

def shown (uri : String) (parts : Parts) : String :=
  if parts.scheme = "file".toList then filePath parts.authority parts.path else uri

theorem displayPath_eq (uri : String) : displayPath uri = (split uri).map (shown uri) := by
  unfold displayPath
  cases split uri with
  | error e => rfl
  | ok parts =>
    show _ = Except.ok (shown uri parts)
    unfold shown filePath
    generalize "file".toList = file
    by_cases hscheme : parts.scheme = file
    · by_cases hauthority : parts.authority = []
      · cases hdrive : hasDrive (unescape parts.path) <;>
          simp [hscheme, hauthority, hdrive, bind, Except.bind, pure, Except.pure]
      · simp [hscheme, hauthority, bind, Except.bind, pure, Except.pure]
    · simp [hscheme, bind, Except.bind, pure, Except.pure]

def Reading.parts (r : Reading) : Parts where
  scheme := r.scheme.map Char.toLower
  authority := r.authority
  path := r.rest.takeWhile fun c => c != '?' && c != '#'

theorem split_of_reads {uri : String} {r : Reading} (h : Reads uri r) :
    split uri = do
      checkBrackets r.authority
      checkCharacters r.authority
      return r.parts := by
  obtain ⟨stripped, after, hstrips, hscheme, hauthority⟩ := h
  obtain rfl := strips_iff.mp hstrips
  rw [splitsAuthority_iff] at hauthority
  unfold split
  rw [hscheme.eq_splitScheme]
  simp only [hauthority]
  rfl

/-- An authority that is safe to read. -/
def IsOrdinary (authority : List Char) : Prop :=
  ∀ c ∈ authority, c.toNat < 128 ∧ c ≠ '[' ∧ c ≠ ']'

theorem lookalikes_beyond_ascii : ∀ n ∈ lookalikes, 128 ≤ n := by decide

theorem IsOrdinary.checks {authority : List Char} (h : IsOrdinary authority) :
    checkBrackets authority = .ok () ∧ checkCharacters authority = .ok () := by
  constructor
  · have hopen : authority.contains '[' = false := by
      simpa using fun hm => (h _ hm).2.1 rfl
    have hclose : authority.contains ']' = false := by
      simpa using fun hm => (h _ hm).2.2 rfl
    unfold checkBrackets
    rw [hopen, hclose]
  · unfold checkCharacters
    refine if_neg fun hany => ?_
    simp only [List.any_eq_true, List.contains_iff_mem] at hany
    obtain ⟨c, hc, hm⟩ := hany
    have hascii := (h c hc).1
    have hbeyond := lookalikes_beyond_ascii _ hm
    omega

theorem displayPath_of_ordinary {uri : String} {r : Reading} (h : Reads uri r)
    (hordinary : IsOrdinary r.authority) : displayPath uri = .ok (shown uri r.parts) := by
  obtain ⟨hbrackets, hcharacters⟩ := hordinary.checks
  rw [displayPath_eq, split_of_reads h, hbrackets, hcharacters]
  rfl

theorem eq_shown_of_displayPath {uri path : String} {r : Reading} (h : Reads uri r)
    (hpath : displayPath uri = .ok path) : path = shown uri r.parts := by
  rw [displayPath_eq, split_of_reads h] at hpath
  cases hbrackets : checkBrackets r.authority with
  | error e =>
    rw [hbrackets] at hpath
    cases hpath
  | ok _ =>
    cases hcharacters : checkCharacters r.authority with
    | error e =>
      rw [hbrackets, hcharacters] at hpath
      cases hpath
    | ok _ =>
      rw [hbrackets, hcharacters] at hpath
      cases hpath
      rfl

/-- **Ordinary URIs are shown.** Every text is read in exactly one way. If its authority is ordinary
or missing, there is something to show; and where something is shown for a scheme other than that of
files, it is the text as it was given. -/
theorem ordinary_uris_are_shown (uri : String) :
    ∃ r, (∀ r', Reads uri r' ↔ r' = r) ∧
      (IsOrdinary r.authority → ∃ path, displayPath uri = .ok path) ∧
      ∀ path, displayPath uri = .ok path → r.scheme.map Char.toLower ≠ "file".toList →
        path = uri := by
  obtain ⟨r, hreads, hunique⟩ := exists_reads uri
  refine ⟨r, ?_, ?_, ?_⟩
  · intro r'
    constructor
    · exact hunique r'
    · rintro rfl
      exact hreads
  · intro hordinary
    exact ⟨_, displayPath_of_ordinary hreads hordinary⟩
  · intro path hpath hscheme
    rw [eq_shown_of_displayPath hreads hpath]
    exact if_neg hscheme

-- What is left out to read a URI is shown again, and the escapes stay.
example : displayPath " \tHTTP://a\n/%41" = .ok " \tHTTP://a\n/%41" := rfl

end PerlSymbols.Uri
