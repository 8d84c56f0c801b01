import SemanticVersion.Proofs.Grammar.Steps

/-!
# The scanner accepts exactly the grammar

The scanner is a sequence of steps, so what it reads is put together from what its steps read.

* `readComponents` — the scanner as one step that looks one character ahead, with
  `scanComponents_eq` and `reads_readComponents`.
* `scanComponents_eq_ok_iff` — the lists of characters that the scanner accepts are the texts of
  well-formed parts, and it gives back these parts.  Hence no text has two decompositions.
* `scan_matched_iff_parts` — the same for the result that is reported for a text.
-/

namespace SemanticVersion

/-! ## The scanner as one step -/

/-- The last step: nothing may be left behind the parts. -/
def scanEnd (parts : Components) (cs : List Char) : Step Components :=
  if cs.isEmpty then .ok (parts, []) else .error cs

theorem reads_scanEnd (parts : Components) :
    Reads (scanEnd parts) fun value read => value = parts ∧ read = [] where
  possible := ⟨parts, [], rfl, rfl⟩
  stops := by
    intro cs
    cases cs with
    | nil =>
        refine ⟨[], [], rfl, .inl ⟨parts, ⟨rfl, rfl⟩, fun other same => ?_⟩⟩
        obtain rfl := List.head?_eq_none_iff.1 same
        rfl
    | cons c cs =>
        refine ⟨[], c :: cs, rfl, .inr ⟨⟨parts, [], rfl, rfl⟩, fun other same => ?_⟩⟩
        obtain ⟨rest, rfl⟩ := List.head?_eq_some_iff.1 same
        rfl

/-- The steps of the scanner, one after the other. -/
def readComponents : List Char → Step Components :=
  followedBy scanNumber fun major => followedBy (scanChar '.') fun _ =>
  followedBy scanNumber fun minor => followedBy (scanChar '.') fun _ =>
  followedBy scanNumber fun patch => followedBy (scanMarked '-' isPadded) fun prerelease =>
  followedBy (scanMarked '+' fun _ => false) fun metadata =>
  scanEnd (.ofLists major minor patch prerelease metadata)

/-- A computation that goes on from the outcome of a step goes on like the step that follows. -/
lemma bind_eq_followedBy {α β : Type} {first : List Char → Step α} {second : α → List Char → Step β}
    {go_on : α × List Char → Step β}
    (same : ∀ value rest, go_on (value, rest) = second value rest) (cs : List Char) :
    Except.bind (first cs) go_on = followedBy first second cs := by
  cases h : first cs with
  | error rest => simp [followedBy, h, Except.bind]
  | ok out => simp [followedBy, h, Except.bind, same]

/-- Scanning a list is taking these steps on it. -/
theorem scanComponents_eq (cs : List Char) : scanComponents cs = readComponents cs := by
  refine bind_eq_followedBy (fun major cs => ?_) cs
  refine bind_eq_followedBy (fun _ cs => ?_) cs
  refine bind_eq_followedBy (fun minor cs => ?_) cs
  refine bind_eq_followedBy (fun _ cs => ?_) cs
  refine bind_eq_followedBy (fun patch cs => ?_) cs
  refine bind_eq_followedBy (fun prerelease cs => ?_) cs
  refine bind_eq_followedBy (fun metadata cs => ?_) cs
  cases cs with
  | nil => rfl
  | cons c cs => rfl

/-- When the second step leaves nothing, then both together leave nothing. -/
lemma followedBy_leaves_nothing {α β : Type} {first : List Char → Step α}
    {second : α → List Char → Step β}
    (h : ∀ a cs value rest, second a cs = .ok (value, rest) → rest = []) (cs : List Char)
    (value : β) (rest : List Char) (ok : followedBy first second cs = .ok (value, rest)) :
    rest = [] := by
  cases hc : first cs with
  | error left =>
      rw [followedBy_error hc] at ok
      contradiction
  | ok out =>
      rw [followedBy_ok hc] at ok
      exact h _ _ value rest ok

/-- The scanner never succeeds before the end of its input. -/
lemma readComponents_leaves_nothing : ∀ cs parts rest,
    readComponents cs = .ok (parts, rest) → rest = [] := by
  -- the seven steps in front of the last one
  iterate 7 refine followedBy_leaves_nothing fun _ => ?_
  intro cs parts rest ok
  cases cs with
  | nil => exact (Prod.mk.inj (Except.ok.inj ok)).2.symm
  | cons c cs => contradiction

lemma isDotted_isAccepted_any : IsDotted (IsAccepted fun _ => false) = IsMetadata := by
  have every : (IsAccepted fun _ => false) = IsToken := by
    funext token
    simp [IsAccepted]
  rw [every]
  rfl

theorem reads_readComponents : Reads readComponents Components.SpelledBy := by
  have prerelease := reads_scanMarked '-' isPadded_append_letter
  have metadata : Reads (scanMarked '+' fun _ => false) _ := reads_scanMarked '+' fun _ => rfl
  rw [isDotted_isAccepted_any] at metadata
  refine Reads.imp (reads_scanNumber.followedBy fun major => (reads_scanChar '.').followedBy fun _ =>
    reads_scanNumber.followedBy fun minor => (reads_scanChar '.').followedBy fun _ =>
    reads_scanNumber.followedBy fun patch => prerelease.followedBy fun _ =>
    metadata.followedBy fun _ => reads_scanEnd _) fun parts read spelled => ?_
  obtain ⟨_, _, _, ⟨rfl, major⟩, spelled, rfl⟩ := spelled
  obtain ⟨_, _, _, rfl, spelled, rfl⟩ := spelled
  obtain ⟨_, _, _, ⟨rfl, minor⟩, spelled, rfl⟩ := spelled
  obtain ⟨_, _, _, rfl, spelled, rfl⟩ := spelled
  obtain ⟨_, _, _, ⟨rfl, patch⟩, spelled, rfl⟩ := spelled
  obtain ⟨_, dashed, _, hyphen, spelled, rfl⟩ := spelled
  obtain ⟨_, plussed, _, plus, ⟨rfl, rfl⟩, rfl⟩ := spelled
  refine ⟨dashed, plussed, ?_⟩
  simp only [Components.ofLists, String.toList_ofList]
  exact ⟨major, minor, patch, hyphen, plus, by simp⟩

/-- What is read for the optional parts does not start with a digit. -/
lemma head_marked_no_digit {prerelease metadata dashed plussed : List Char}
    (hyphen : IsMarked '-' IsPrerelease prerelease dashed)
    (plus : IsMarked '+' IsMetadata metadata plussed) :
    ∀ c ∈ (dashed ++ plussed).head?, c.isDigit = false := by
  rw [List.head?_append]
  intro c hc
  obtain ahead | ⟨-, ahead⟩ := Option.or_eq_some_iff.1 hc
  · rw [hyphen.head c ahead]
    decide
  · rw [plus.head c ahead]
    decide

/-- Every text of well-formed parts is read to its end. -/
theorem readComponents_of_spelledBy {parts : Components} {read : List Char}
    (h : parts.SpelledBy read) : readComponents read = .ok (parts, []) := by
  obtain ⟨dashed, plussed, major, minor, patch, hyphen, plus, rfl⟩ := h
  have dot : ∀ rest : List Char, ∀ c ∈ ('.' :: rest).head?, c.isDigit = false :=
    head_cons_outside (by decide)
  have read_prerelease : scanMarked '-' isPadded (dashed ++ plussed)
      = .ok (parts.prerelease.toList, plussed) := by
    refine scanMarked_append hyphen (fun c ahead => ?_) fun _ ahead => ?_
    · rw [plus.head c ahead]
      decide
    · exact absurd (plus.head _ ahead) (by decide)
  have read_metadata : scanMarked '+' (fun _ => false) plussed
      = .ok (parts.metadata.toList, []) := by
    rw [← isDotted_isAccepted_any] at plus
    have ends : EndsTokens [] := nofun
    simpa using scanMarked_append plus ends nofun
  rw [readComponents, followedBy_ok (scanNumber_append major (dot _)),
    followedBy_ok (scanChar_cons _ _), followedBy_ok (scanNumber_append minor (dot _)),
    followedBy_ok (scanChar_cons _ _), followedBy_ok (scanNumber_append patch (head_marked_no_digit hyphen plus)),
    followedBy_ok read_prerelease, followedBy_ok read_metadata]
  simp [scanEnd, Components.ofLists]

/-! ## What is accepted -/

/-- The lists of characters that the scanner accepts are the texts of well-formed parts, and it accepts
them at their end. -/
theorem scanComponents_eq_ok_iff {cs rest : List Char} {parts : Components} :
    scanComponents cs = .ok (parts, rest) ↔
      rest = [] ∧ parts.WellFormed ∧ parts.text.toList = cs := by
  rw [scanComponents_eq, ← Components.spelledBy_iff]
  constructor
  · intro ok
    obtain rfl := readComponents_leaves_nothing cs parts rest ok
    obtain ⟨read, split, spelled⟩ := reads_readComponents.sound ok
    rw [List.append_nil] at split
    exact ⟨rfl, by rwa [← split]⟩
  · rintro ⟨rfl, spelled⟩
    exact readComponents_of_spelledBy spelled

/-- What stands in front of a failure can be continued to a version text.  The failure stays for
everything that starts like what is left. -/
theorem of_scanComponents_eq_error {cs rest : List Char} (error : scanComponents cs = .error rest) :
    ∃ front, front ++ rest = cs ∧ (∃ more, IsVersion (String.ofList (front ++ more))) ∧
      ∀ other : List Char, other.head? = rest.head? →
        scanComponents (front ++ other) = .error other := by
  rw [scanComponents_eq] at error
  obtain ⟨front, split, ⟨parts, more, spelled⟩, fails⟩ := reads_readComponents.of_error error
  obtain ⟨wellFormed, text⟩ := Components.spelledBy_iff.1 spelled
  refine ⟨front, split, ⟨more, parts, wellFormed, ?_⟩, fun other same => ?_⟩
  · rw [← text, String.ofList_toList]
  · rw [scanComponents_eq, fails other same]

/-! ## The result for a text -/

/-- A text that is accepted is scanned to its end. -/
theorem scan_eq_of_ok {text : String} {parts : Components} {rest : List Char}
    (ok : scanComponents text.toList = .ok (parts, rest)) :
    scan text = ⟨.matched, text.length, some parts⟩ := by
  obtain ⟨rfl, -⟩ := scanComponents_eq_ok_iff.1 ok
  rw [scan, ok]
  rfl

theorem scan_eq_of_error {text : String} {rest : List Char}
    (error : scanComponents text.toList = .error rest) :
    scan text = .ofFailure text.length rest := by
  rw [scan, error]

/-- A failure is never reported as a version. -/
lemma ofFailure_state_ne_matched (length : Nat) (rest : List Char) :
    (Scan.ofFailure length rest).state ≠ .matched := by
  cases rest <;> simp [Scan.ofFailure]

/-- A text is scanned with success exactly when it is the text of well-formed parts, and then the
result holds these parts. -/
theorem scan_eq_matched_iff {text : String} {parts : Components} :
    scan text = ⟨.matched, text.length, some parts⟩ ↔ parts.WellFormed ∧ parts.text = text := by
  constructor
  · intro scanned
    cases h : scanComponents text.toList with
    | error rest =>
        rw [scan_eq_of_error h] at scanned
        exact absurd (congrArg Scan.state scanned) (ofFailure_state_ne_matched text.length rest)
    | ok found =>
        obtain ⟨parts', rest⟩ := found
        rw [scan_eq_of_ok h] at scanned
        obtain rfl : parts' = parts := by simpa using scanned
        obtain ⟨-, wellFormed, spelled⟩ := scanComponents_eq_ok_iff.1 h
        exact ⟨wellFormed, String.toList_inj.1 spelled⟩
  · rintro ⟨wellFormed, spelled⟩
    exact scan_eq_of_ok (scanComponents_eq_ok_iff.2 ⟨rfl, wellFormed, congrArg String.toList spelled⟩)

theorem scan_state_eq_matched_iff {text : String} :
    (scan text).state = .matched ↔ IsVersion text := by
  constructor
  · intro matched
    cases h : scanComponents text.toList with
    | error rest =>
        rw [scan_eq_of_error h] at matched
        exact absurd matched (ofFailure_state_ne_matched text.length rest)
    | ok found => exact ⟨found.1, scan_eq_matched_iff.1 (scan_eq_of_ok h)⟩
  · rintro ⟨parts, wellFormed, spelled⟩
    rw [scan_eq_matched_iff.2 ⟨wellFormed, spelled⟩]

lemma isVersion_eq_true_iff {text : String} : isVersion text = true ↔ IsVersion text := by
  rw [isVersion, beq_iff_eq, scan_state_eq_matched_iff]

/-- A version text consists of characters of tokens, dots and plus signs. -/
theorem forall_mem_of_isVersion {text : String} (valid : isVersion text = true) :
    ∀ c ∈ text.toList, isTokenChar c = true ∨ c = '.' ∨ c = '+' := by
  obtain ⟨parts, wellFormed, rfl⟩ := isVersion_eq_true_iff.1 valid
  exact (Components.spelledBy_iff.2 ⟨wellFormed, rfl⟩).forall_mem

/-- Two decompositions of one text are the same. -/
theorem Components.WellFormed.eq_of_text_eq {parts parts' : Components} (h : parts.WellFormed)
    (h' : parts'.WellFormed) (same : parts.text = parts'.text) : parts = parts' := by
  have scanned := scan_eq_matched_iff.2 ⟨h, rfl⟩
  rw [same, scan_eq_matched_iff.2 ⟨h', rfl⟩] at scanned
  simpa using scanned.symm

/-- **The scanner accepts exactly the grammar.**  A text is reported as a version when it is the
text of well-formed parts, there are no two ways to decompose it, and the result consists of these
parts and the length of the text. -/
theorem scan_matched_iff_parts (text : String) :
    ((scan text).state = .matched ↔ ∃ parts : Components, parts.WellFormed ∧ parts.text = text) ∧
    (∀ parts parts' : Components, parts.WellFormed ∧ parts.text = text →
      parts'.WellFormed ∧ parts'.text = text → parts = parts') ∧
    ∀ parts : Components, parts.WellFormed ∧ parts.text = text ↔
      scan text = ⟨.matched, text.length, some parts⟩ := by
  refine ⟨scan_state_eq_matched_iff, ?_, fun parts => scan_eq_matched_iff.symm⟩
  rintro parts parts' ⟨h, spelled⟩ ⟨h', spelled'⟩
  exact h.eq_of_text_eq h' (spelled.trans spelled'.symm)

/-- The first hyphen separates the pre-release, and a later one belongs to it. -/
theorem parts_of_two_hyphens : ∀ parts : Components,
    parts.WellFormed ∧ parts.text = "1.0.0-a-b+c" → parts = ⟨"1", "0", "0", "a-b", "c"⟩ := by
  obtain ⟨-, unique, decomposed⟩ := scan_matched_iff_parts "1.0.0-a-b+c"
  have scanned : scan "1.0.0-a-b+c" = ⟨.matched, 11, some ⟨"1", "0", "0", "a-b", "c"⟩⟩ := by decide +kernel
  exact fun parts h => unique parts _ h ((decomposed _).2 scanned)

end SemanticVersion
