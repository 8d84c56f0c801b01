import SemanticVersion.Proofs.Grammar.Acceptance
import SemanticVersion.Proofs.Grammar.Matching

/-!
# The regular expression agrees with the scanner

The expression of version texts spells exactly the texts of well-formed parts, and the groups that
it keeps are these parts.  There may be many ways for a search to go wrong, and the alternatives for
a token overlap, but no text has two decompositions, so there is one end at most for the search to
find and the order in which it looks is of no account.

* `numberPattern_denotes`, `prereleaseTokenPattern_denotes`, `dottedPattern_denotes` — the pieces of
  the expression denote the languages of the grammar.
* `Components.group?`, `Components.groups` — the groups that stand for some parts.
* `spells_versionPattern_iff`, `mem_versionEnds_iff` — what the whole expression spells and finds.
* `Cursor.Captures` — the cursor stands behind a version text and holds its parts.
* `pattern_agrees_with_scan` — both ways of matching in terms of the scanner.
-/

namespace SemanticVersion

open Pattern

/-! ## The pieces of the expression -/

theorem numberPattern_denotes : numberPattern.Denotes IsNumber := by
  refine (Denotes.choice (.one _) (.sequence (.one _) (.many_one _))).congr fun cs => ?_
  rw [isNumber_iff]
  simp only [beq_iff_eq, Bool.and_eq_true, bne_iff_ne]
  constructor
  · rintro (⟨_, rfl, rfl⟩ | ⟨_, run, ⟨c, ⟨digit, nonzero⟩, rfl⟩, inside, rfl⟩)
    · exact .inl rfl
    · exact .inr ⟨c, run, rfl, digit, nonzero, inside⟩
  · rintro (rfl | ⟨c, run, rfl, digit, nonzero, inside⟩)
    · exact .inl ⟨_, rfl, rfl⟩
    · exact .inr ⟨[c], run, ⟨c, ⟨digit, nonzero⟩, rfl⟩, inside, rfl⟩

/-- A token of a pre-release is a number, or it has a letter or a hyphen behind its first digits. -/
lemma isPrereleaseToken_iff {cs : List Char} :
    IsPrereleaseToken cs ↔ IsNumber cs ∨
      ∃ digits c rest, (∀ d ∈ digits, d.isDigit = true) ∧ isTokenChar c = true ∧
        c.isDigit = false ∧ (∀ d ∈ rest, isTokenChar d = true) ∧ digits ++ c :: rest = cs := by
  constructor
  · rintro ⟨⟨nonempty, inside⟩, unpadded⟩
    obtain ⟨digits, rest, rfl, run, stop⟩ := exists_run Char.isDigit cs
    cases rest with
    | nil =>
        rw [List.append_nil] at nonempty unpadded ⊢
        exact .inl ⟨isNumeral_iff.2 ⟨nonempty, run⟩, unpadded⟩
    | cons c rest =>
        have others : ∀ d ∈ c :: rest, isTokenChar d = true :=
          fun d hd => inside d (List.mem_append_right _ hd)
        obtain ⟨first, others⟩ := List.forall_mem_cons.1 others
        exact .inr ⟨digits, c, rest, run, first, stop c rfl, others, rfl⟩
  · rintro (⟨numeral, unpadded⟩ | ⟨digits, c, rest, run, first, no_digit, others, rfl⟩)
    · obtain ⟨nonempty, digits⟩ := isNumeral_iff.1 numeral
      exact ⟨⟨nonempty, fun c hc => isTokenChar_of_isDigit (digits c hc)⟩, unpadded⟩
    · refine ⟨⟨by simp, fun d hd => ?_⟩, by simp [isPadded, isNumeral, no_digit]⟩
      rcases List.mem_append.1 hd with hd | hd
      · exact isTokenChar_of_isDigit (run d hd)
      · rcases List.mem_cons.1 hd with rfl | hd
        · exact first
        · exact others d hd

theorem prereleaseTokenPattern_denotes : prereleaseTokenPattern.Denotes IsPrereleaseToken := by
  refine (Denotes.choice numberPattern_denotes (.sequence (.many_one _) (.sequence (.one _)
    (.sequence (.many_one _) .empty)))).congr fun cs => ?_
  rw [isPrereleaseToken_iff]
  simp only [Bool.and_eq_true, Bool.not_eq_true']
  refine or_congr Iff.rfl ⟨?_, ?_⟩
  · rintro ⟨digits, _, run, ⟨_, _, ⟨c, ⟨first, no_digit⟩, rfl⟩, ⟨rest, _, others, rfl, rfl⟩, rfl⟩,
      rfl⟩
    exact ⟨digits, c, rest, run, first, no_digit, others, by simp⟩
  · rintro ⟨digits, c, rest, run, first, no_digit, others, rfl⟩
    exact ⟨digits, c :: rest, run, ⟨[c], rest, ⟨c, ⟨first, no_digit⟩, rfl⟩,
      ⟨rest, [], others, rfl, by simp⟩, rfl⟩, rfl⟩

theorem tokenPattern_denotes : (atLeastOnce (.one isTokenChar)).Denotes IsToken := by
  refine (Denotes.sequence (.one _) (.many_one _)).congr fun cs => ?_
  constructor
  · rintro ⟨_, run, ⟨c, inside, rfl⟩, others, rfl⟩
    exact ⟨by simp, List.forall_mem_cons.2 ⟨inside, others⟩⟩
  · rintro ⟨nonempty, inside⟩
    obtain ⟨c, run, rfl⟩ := List.exists_cons_of_ne_nil nonempty
    obtain ⟨first, others⟩ := List.forall_mem_cons.1 inside
    exact ⟨[c], run, ⟨c, first, rfl⟩, others, rfl⟩

theorem dottedPattern_denotes {token : Pattern} {language : List Char → Prop}
    (h : token.Denotes language) : (dottedPattern token).Denotes (IsDotted language) := by
  refine (Denotes.sequence h (.many (.sequence (.one _) h))).congr fun cs => ?_
  simp only [beq_iff_eq]
  constructor
  · rintro ⟨token, _, member, ⟨parts, members, rfl⟩, rfl⟩
    induction parts generalizing token with
    | nil => simpa using IsDotted.single member
    | cons part parts ih =>
        obtain ⟨⟨-, _, next, ⟨_, rfl, rfl⟩, member', rfl⟩, others⟩ := List.forall_mem_cons.1 members
        simpa using IsDotted.cons member (ih next member' others)
  · intro list
    induction list using IsDotted.induct with
    | single token member => exact ⟨token, [], member, ⟨[], nofun, rfl⟩, by simp⟩
    | cons token more member _ ih =>
        obtain ⟨next, _, member', ⟨parts, members, rfl⟩, rfl⟩ := ih
        refine ⟨token, _, member, ⟨('.' :: next) :: parts, ?_, rfl⟩, by simp⟩
        exact List.forall_mem_cons.2
          ⟨⟨by simp, ['.'], next, ⟨'.', rfl, rfl⟩, member', rfl⟩, members⟩

/-! ## The parts as groups -/

namespace Components

/-- The part with a name. -/
def part (parts : Components) : Identifier → String
  | .major => parts.major
  | .minor => parts.minor
  | .patch => parts.patch
  | .prerelease => parts.prerelease
  | .metadata => parts.metadata

/-- The group that stands for a part.  An empty part has no group. -/
def group? (parts : Components) (identifier : Identifier) : Option String :=
  if parts.part identifier = "" then none else some (parts.part identifier)

end Components

/-- The group that is kept for an optional part. -/
def optionalGroup (identifier : Identifier) (part : List Char) : Groups :=
  if part = [] then [] else [(identifier, String.ofList part)]

/-- The groups that are kept for some parts. -/
def Components.groups (parts : Components) : Groups :=
  optionalGroup .metadata parts.metadata.toList ++
    (optionalGroup .prerelease parts.prerelease.toList ++
      [(.patch, parts.patch), (.minor, parts.minor), (.major, parts.major)])

/-! ## The whole expression -/

lemma char_denotes (c : Char) : (char c).Denotes (· = [c]) :=
  (Denotes.one _).congr fun cs => by simp

lemma spells_append {first second : Pattern} {front back rest : List Char} {kept later : Groups}
    (h : first.Spells front (back ++ rest) kept) (h' : second.Spells back rest later) :
    (Pattern.sequence first second).Spells (front ++ back) rest (later ++ kept) :=
  ⟨front, back, kept, later, h, h', rfl, rfl⟩

/-- A group spells what its expression spells and keeps it. -/
lemma spells_group_iff {identifier : Identifier} {pattern : Pattern} {language : List Char → Prop}
    (h : pattern.Denotes language) {read rest : List Char} {groups : Groups} :
    (Pattern.group identifier pattern).Spells read rest groups ↔
      language read ∧ [(identifier, String.ofList read)] = groups := by
  simp only [Pattern.Spells, h read rest, and_assoc, exists_and_left, exists_eq_left]

/-- An optional part of the expression spells the part behind its mark and keeps it, or spells
nothing. -/
lemma spells_optional_iff {mark : Char} {identifier : Identifier} {pattern : Pattern}
    {language : List Char → Prop} (h : pattern.Denotes language)
    (nonempty : ∀ cs, language cs → cs ≠ []) {read rest : List Char} {groups : Groups} :
    (optional (.sequence (char mark) (.group identifier pattern))).Spells read rest groups ↔
      ∃ part, IsMarked mark language part read ∧ optionalGroup identifier part = groups := by
  constructor
  · rintro (⟨_, part, _, _, ⟨⟨c, same, rfl⟩, rfl⟩, ⟨_, spelled, rfl⟩, rfl, rfl⟩ | ⟨rfl, rfl⟩)
    · obtain ⟨member, rfl⟩ := (h _ _ _).1 spelled
      obtain rfl : c = mark := by simpa using same
      exact ⟨part, .inr ⟨member, rfl⟩, by simp [optionalGroup, nonempty part member]⟩
    · exact ⟨[], .inl ⟨rfl, rfl⟩, rfl⟩
  · rintro ⟨part, ⟨rfl, rfl⟩ | ⟨member, rfl⟩, rfl⟩
    · exact .inr ⟨rfl, rfl⟩
    · refine .inl ⟨[mark], part, [], _, ⟨⟨mark, by simp, rfl⟩, rfl⟩,
        ⟨[], (h _ _ _).2 ⟨member, rfl⟩, rfl⟩, rfl, ?_⟩
      simp [optionalGroup, nonempty part member]

lemma spells_prerelease_iff {read rest : List Char} {groups : Groups} :
    (optional (.sequence (char '-')
        (.group .prerelease (dottedPattern prereleaseTokenPattern)))).Spells read rest groups ↔
      ∃ part, IsMarked '-' IsPrerelease part read ∧ optionalGroup .prerelease part = groups :=
  spells_optional_iff (dottedPattern_denotes prereleaseTokenPattern_denotes)
    fun _ (list : IsPrerelease _) => list.ne_nil

lemma spells_metadata_iff {read rest : List Char} {groups : Groups} :
    (optional (.sequence (char '+')
        (.group .metadata (dottedPattern (atLeastOnce (.one isTokenChar)))))).Spells
          read rest groups ↔
      ∃ part, IsMarked '+' IsMetadata part read ∧ optionalGroup .metadata part = groups :=
  spells_optional_iff (dottedPattern_denotes tokenPattern_denotes)
    fun _ (list : IsMetadata _) => list.ne_nil

/-- The expression of version texts spells the texts of well-formed parts, at the end of the input or
in front of a last line feed, and keeps the parts. -/
theorem spells_versionPattern_iff {read rest : List Char} {groups : Groups} :
    versionPattern.Spells read rest groups ↔
      (∃ parts : Components, parts.SpelledBy read ∧ parts.groups = groups) ∧
        (rest = [] ∨ rest = ['\n']) := by
  constructor
  · intro spelled
    -- what the elements of the sequence spell, from the first one to the last one
    obtain ⟨M, _, _, _, group_M, spelled, rfl, rfl⟩ := spelled
    obtain ⟨major, rfl⟩ := (spells_group_iff numberPattern_denotes).1 group_M
    obtain ⟨_, _, _, _, dot₁, spelled, rfl, rfl⟩ := spelled
    obtain ⟨rfl, rfl⟩ := (char_denotes '.' _ _ _).1 dot₁
    obtain ⟨m, _, _, _, group_m, spelled, rfl, rfl⟩ := spelled
    obtain ⟨minor, rfl⟩ := (spells_group_iff numberPattern_denotes).1 group_m
    obtain ⟨_, _, _, _, dot₂, spelled, rfl, rfl⟩ := spelled
    obtain ⟨rfl, rfl⟩ := (char_denotes '.' _ _ _).1 dot₂
    obtain ⟨p, _, _, _, group_p, spelled, rfl, rfl⟩ := spelled
    obtain ⟨patch, rfl⟩ := (spells_group_iff numberPattern_denotes).1 group_p
    obtain ⟨dashed, _, _, _, optional_pre, spelled, rfl, rfl⟩ := spelled
    obtain ⟨pre, hyphen, rfl⟩ := spells_prerelease_iff.1 optional_pre
    obtain ⟨plussed, _, _, _, optional_build, spelled, rfl, rfl⟩ := spelled
    obtain ⟨build, plus, rfl⟩ := spells_metadata_iff.1 optional_build
    obtain ⟨_, _, _, _, ⟨rfl, at_end, rfl⟩, ⟨rfl, rfl⟩, rfl, rfl⟩ := spelled
    refine ⟨⟨.ofLists M m p pre build, ⟨dashed, plussed, ?_⟩, ?_⟩, by simpa using at_end⟩
    · simp only [Components.ofLists, String.toList_ofList]
      exact ⟨major, minor, patch, hyphen, plus, by simp⟩
    · simp [Components.groups, Components.ofLists]
  · rintro ⟨⟨parts, ⟨dashed, plussed, major, minor, patch, hyphen, plus, rfl⟩, rfl⟩, at_end⟩
    have number : ∀ {identifier : Identifier} {part : String} (rest : List Char),
        IsNumber part.toList →
        (Pattern.group identifier numberPattern).Spells part.toList rest [(identifier, part)] := by
      intro identifier part rest member
      exact (spells_group_iff numberPattern_denotes).2 ⟨member, by rw [String.ofList_toList]⟩
    have dot : ∀ rest : List Char, (char '.').Spells ['.'] rest [] :=
      fun rest => (char_denotes '.' _ _ _).2 ⟨rfl, rfl⟩
    have ending : (inOrder [.atEnd]).Spells [] rest [] :=
      ⟨[], [], [], [], ⟨rfl, at_end, rfl⟩, ⟨rfl, rfl⟩, rfl, rfl⟩
    have spelled : versionPattern.Spells _ rest _ :=
      spells_append (number _ major) (spells_append (dot _) (spells_append (number _ minor)
        (spells_append (dot _) (spells_append (number _ patch)
          (spells_append (spells_prerelease_iff.2 ⟨_, hyphen, rfl⟩)
            (spells_append (spells_metadata_iff.2 ⟨_, plus, rfl⟩) ending))))))
    simpa [Components.groups] using spelled

/-- Found are the ends of well-formed parts that make up the text, except perhaps for a line feed at
its end. -/
theorem mem_versionEnds_iff {text : String} {cursor : Cursor} :
    cursor ∈ versionEnds text ↔
      (cursor.rest = [] ∨ cursor.rest = ['\n']) ∧
        ∃ parts : Components, parts.WellFormed ∧ parts.text.toList ++ cursor.rest = text.toList ∧
          cursor.position = parts.text.length ∧ cursor.groups = parts.groups := by
  rw [versionEnds, finds_ends]
  constructor
  · rintro ⟨read, groups, spelled, moves⟩
    obtain ⟨⟨parts, spelled_by, rfl⟩, at_end⟩ := spells_versionPattern_iff.1 spelled
    obtain ⟨wellFormed, rfl⟩ := Components.spelledBy_iff.1 spelled_by
    refine ⟨at_end, parts, wellFormed, moves.rest, ?_, ?_⟩
    · rw [moves.position, String.length_toList, Nat.zero_add]
    · simpa using moves.groups
  · rintro ⟨at_end, parts, wellFormed, rest, position, groups⟩
    have spelled := Components.spelledBy_iff.2 ⟨wellFormed, rfl⟩
    refine ⟨parts.text.toList, parts.groups,
      spells_versionPattern_iff.2 ⟨⟨parts, spelled, rfl⟩, at_end⟩, rest, ?_, ?_⟩
    · rw [position, String.length_toList, Nat.zero_add]
    · simpa using groups

/-! ## Both ways of matching -/

lemma lookup_optionalGroup (identifier : Identifier) (part : String) (groups : Groups)
    (key : Identifier) :
    (optionalGroup identifier part.toList ++ groups).lookup key =
      if key = identifier ∧ part ≠ "" then some part else groups.lookup key := by
  by_cases empty : part = ""
  · simp [optionalGroup, empty]
  · by_cases same : key = identifier
    · simp [optionalGroup, empty, same]
    · have other : (key == identifier) = false := beq_false_of_ne same
      simp [optionalGroup, empty, same, other, List.lookup_cons]

/-- The groups of well-formed parts are these parts. -/
lemma Components.WellFormed.lookup_groups {parts : Components} (h : parts.WellFormed)
    (identifier : Identifier) : parts.groups.lookup identifier = parts.group? identifier := by
  have nonempty : ∀ number : String, IsNumber number.toList → number ≠ "" := by
    rintro _ ⟨numeral, -⟩ rfl
    exact (isNumeral_iff.1 numeral).1 rfl
  have major := nonempty _ h.major
  have minor := nonempty _ h.minor
  have patch := nonempty _ h.patch
  rw [groups, lookup_optionalGroup, lookup_optionalGroup]
  cases identifier with
  | major => rw [group?, part, if_neg major]; rfl
  | minor => rw [group?, part, if_neg minor]; rfl
  | patch => rw [group?, part, if_neg patch]; rfl
  | prerelease =>
      by_cases empty : parts.prerelease = ""
      · rw [group?, part, if_pos empty, if_neg (by simp), if_neg (by simp [empty])]
        rfl
      · simp [group?, part, empty]
  | metadata =>
      by_cases empty : parts.metadata = ""
      · rw [group?, part, if_pos empty, if_neg (by simp [empty]), if_neg (by simp)]
        rfl
      · simp [group?, part, empty]

/-- The cursor stands behind the version text, and its groups are the parts that scanning the text
gives. -/
def Cursor.Captures (cursor : Cursor) (version : String) : Prop :=
  cursor.position = version.length ∧ ∃ parts, scan version = ⟨.matched, version.length, some parts⟩ ∧
    ∀ identifier, cursor.group? identifier = parts.group? identifier

/-- Every cursor that a search can end with captures the version text in front of it. -/
lemma exists_captures_of_mem {text : String} {cursor : Cursor} (found : cursor ∈ versionEnds text) :
    ∃ version, isVersion version = true ∧ version ++ String.ofList cursor.rest = text ∧
      cursor.Captures version := by
  obtain ⟨-, parts, wellFormed, spelled, position, groups⟩ := mem_versionEnds_iff.1 found
  have scanned := scan_eq_matched_iff.2 ⟨wellFormed, rfl⟩
  refine ⟨parts.text, by simp [isVersion, scanned], ?_, position, parts, scanned, fun id => ?_⟩
  · rw [← String.toList_inj, ← spelled]
    simp
  · rw [Cursor.group?, groups, wellFormed.lookup_groups]

/-- In front of at most one line feed a search can end behind every version text. -/
lemma exists_mem_versionEnds {version : String} (h : isVersion version = true) {rest : List Char}
    (at_end : rest = [] ∨ rest = ['\n']) :
    ∃ cursor ∈ versionEnds (version ++ String.ofList rest), cursor.rest = rest := by
  obtain ⟨parts, wellFormed, rfl⟩ := isVersion_eq_true_iff.1 h
  refine ⟨⟨parts.text.length, rest, parts.groups⟩, ?_, rfl⟩
  exact mem_versionEnds_iff.2 ⟨at_end, parts, wellFormed, by simp, rfl, rfl⟩

/-- No version text ends with a line feed. -/
lemma isVersion_line_feed (text : String) : isVersion (text ++ "\n") = false := by
  refine Bool.eq_false_iff.2 fun valid => ?_
  exact absurd (forall_mem_of_isVersion valid '\n' (by simp)) (by decide)

/-- In front of at most one line feed there is one version text only. -/
lemma eq_of_line_feed {text version other : String} (h : isVersion version = true)
    (h' : isVersion other = true) (same : text = version ∨ text = version ++ "\n")
    (same' : text = other ∨ text = other ++ "\n") : version = other := by
  rcases same with rfl | rfl
  · refine same'.resolve_right ?_
    rintro rfl
    simp [isVersion_line_feed] at h
  · rcases same' with rfl | same'
    · simp [isVersion_line_feed] at h'
    · exact (String.append_left_inj _).1 same'

lemma captures_of_matchWhole {text : String} {cursor : Cursor}
    (h : matchWhole text = some cursor) : isVersion text = true ∧ cursor.Captures text := by
  have rest : cursor.rest.isEmpty = true :=
    List.find?_some (p := fun cursor : Cursor => cursor.rest.isEmpty) h
  obtain ⟨version, accepted, split, captured⟩ :=
    exists_captures_of_mem (List.mem_of_find?_eq_some h)
  rw [List.isEmpty_iff.1 rest, String.ofList_nil, String.append_empty] at split
  exact split ▸ ⟨accepted, captured⟩

lemma captures_of_matchFront {text : String} {cursor : Cursor}
    (h : matchFront text = some cursor) :
    ∃ version, isVersion version = true ∧ (text = version ∨ text = version ++ "\n") ∧
      cursor.Captures version := by
  have found : cursor ∈ versionEnds text := List.mem_of_head? h
  obtain ⟨version, accepted, split, captured⟩ := exists_captures_of_mem found
  refine ⟨version, accepted, ?_, captured⟩
  rcases (mem_versionEnds_iff.1 found).1 with rest | rest
  · rw [rest, String.ofList_nil, String.append_empty] at split
    exact .inl split.symm
  · rw [rest] at split
    exact .inr split.symm

/-- **The regular expression agrees with the scanner.**  It matches the whole text exactly when the
text is scanned with success, and then with the same parts.  It matches at the front exactly the
version texts and those with a line feed behind them, and it finds the parts of the version text. -/
theorem pattern_agrees_with_scan (text : String) :
    ((matchWhole text).isSome = true ↔ (scan text).state = .matched) ∧
    (∀ cursor, matchWhole text = some cursor → cursor.Captures text) ∧
    ((matchFront text).isSome = true ↔
      ∃ version, isVersion version = true ∧ (text = version ∨ text = version ++ "\n")) ∧
    ∀ cursor version, matchFront text = some cursor → isVersion version = true →
      text = version ∨ text = version ++ "\n" → cursor.Captures version := by
  refine ⟨⟨fun found => ?_, fun matched => ?_⟩, fun cursor h => (captures_of_matchWhole h).2,
    ⟨fun found => ?_, ?_⟩, fun cursor version h accepted same => ?_⟩
  · obtain ⟨cursor, h⟩ := Option.isSome_iff_exists.1 found
    exact beq_iff_eq.1 (captures_of_matchWhole h).1
  · have accepted : isVersion text = true := beq_iff_eq.2 matched
    obtain ⟨cursor, found, rest⟩ := exists_mem_versionEnds accepted (.inl rfl)
    rw [String.ofList_nil, String.append_empty] at found
    exact List.find?_isSome.2 ⟨cursor, found, by simp [rest]⟩
  · obtain ⟨cursor, h⟩ := Option.isSome_iff_exists.1 found
    obtain ⟨version, accepted, same, -⟩ := captures_of_matchFront h
    exact ⟨version, accepted, same⟩
  · rintro ⟨version, accepted, same⟩
    obtain ⟨rest, at_end, rfl⟩ : ∃ rest, (rest = [] ∨ rest = ['\n']) ∧
        version ++ String.ofList rest = text := by
      rcases same with rfl | rfl
      · exact ⟨[], .inl rfl, by simp⟩
      · exact ⟨['\n'], .inr rfl, rfl⟩
    obtain ⟨cursor, found, -⟩ := exists_mem_versionEnds accepted at_end
    exact List.isSome_head?.2 (List.ne_nil_of_mem found)
  · obtain ⟨other, accepted', same', captured⟩ := captures_of_matchFront h
    rwa [eq_of_line_feed accepted accepted' same same']

/-- A line feed behind a version text is left by the match at the front and refused by the match of
the whole text. -/
theorem match_of_line_feed :
    matchWhole "1.0.0-0a\n" = none ∧
      ∃ cursor, matchFront "1.0.0-0a\n" = some cursor ∧ cursor.Captures "1.0.0-0a" := by
  obtain ⟨whole, -, front, captures⟩ := pattern_agrees_with_scan "1.0.0-0a\n"
  have accepted : isVersion "1.0.0-0a" = true := by decide +kernel
  have refused : (scan "1.0.0-0a\n").state ≠ .matched := by decide +kernel
  obtain ⟨cursor, found⟩ := Option.isSome_iff_exists.1 (front.2 ⟨_, accepted, .inr rfl⟩)
  refine ⟨?_, cursor, found, captures cursor _ found accepted (.inr rfl)⟩
  rw [← Option.not_isSome_iff_eq_none, whole]
  exact refused

end SemanticVersion
