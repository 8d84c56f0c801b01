import SemanticVersion.History
import SemanticVersion.Proofs.Field.Reading
import SemanticVersion.Proofs.Version.Blame

/-!
# Well-formedness along a history

Most steps of a history end with reading a text, and what is read is well-formed.  Only incrementing
puts a version together without any check.  It keeps well-formedness for a reason of its own: the
numbers only grow, and the fields of a pre-release are replaced by fields that a pre-release can have.

* `exists_parse_of_build`, `exists_parse_of_of`, `exists_parse_of_ofArguments`,
  `exists_parse_of_replace` — what is built was read.
* `nextPrerelease_eq_ok_iff`, `Version.WellFormed.fields_next` — the pre-release after another.
* `Version.WellFormed.next` — incrementing keeps well-formedness.
* `History.WellFormed`, `wellFormed_of_apply`, `wellFormed_run` — the invariant, kept by a step and
  by any number of steps.
* `rebuild_eq_self` — a well-formed version within the limit is built from its own components.
* `run_wellFormed` — the versions of a history that starts with a version that was read.
-/

namespace SemanticVersion

/-! ## What is built was read -/

lemma blame_ne_ok {identifier : Identifier} {value : Value} {cause : Option Malformed}
    {version : Version} : Version.blame identifier value cause ≠ .ok version := by
  intro blamed
  obtain ⟨report, -, thrown⟩ := bind_eq_ok_iff.1 blamed
  contradiction

theorem exists_parse_of_build {major minor patch : Int} {prerelease metadata : Option String}
    {version : Version} (built : Version.build major minor patch prerelease metadata = .ok version) :
    ∃ text, Version.parse text = .ok version := by
  obtain ⟨pieces, -, built⟩ := bind_eq_ok_iff.1 built
  split at built
  · exact absurd built blame_ne_ok
  · contradiction
  · next read =>
      split at built
      · exact absurd built blame_ne_ok
      · split at built
        · exact absurd built blame_ne_ok
        · obtain rfl := Except.ok.inj built
          exact ⟨_, read⟩

theorem exists_parse_of_of {major minor patch prerelease metadata : Value} {version : Version}
    (built : Version.of major minor patch prerelease metadata = .ok version) :
    ∃ text, Version.parse text = .ok version := by
  cases major with
  | text content =>
      rw [Version.of] at built
      split at built
      · exact ⟨content, built⟩
      · contradiction
  | _ =>
      obtain ⟨_, -, built⟩ := bind_eq_ok_iff.1 built
      obtain ⟨_, -, built⟩ := bind_eq_ok_iff.1 built
      obtain ⟨_, -, built⟩ := bind_eq_ok_iff.1 built
      obtain ⟨_, -, built⟩ := bind_eq_ok_iff.1 built
      obtain ⟨_, -, built⟩ := bind_eq_ok_iff.1 built
      exact exists_parse_of_build built

theorem exists_parse_of_ofArguments {arguments : List Value} {version : Version}
    (built : Version.ofArguments arguments = .ok version) :
    ∃ text, Version.parse text = .ok version := by
  cases arguments with
  | nil => contradiction
  | cons major others =>
      rw [Version.ofArguments] at built
      split at built
      · exact exists_parse_of_of built
      · contradiction

theorem exists_parse_of_replace {version : Version} {identifier : Identifier} {value : Value}
    {replaced : Version} (ok : version.replace identifier value = .ok replaced) :
    ∃ text, Version.parse text = .ok replaced := by
  cases identifier with
  | major | minor | patch | prerelease | metadata =>
      obtain ⟨_, -, built⟩ := bind_eq_ok_iff.1 ok
      exact exists_parse_of_build built

lemma wellFormed_of_exists_parse {version : Version}
    (read : ∃ text, Version.parse text = .ok version) : version.WellFormed := by
  obtain ⟨text, read⟩ := read
  exact (parse_eq_ok_iff.1 read).1

/-! ## Incrementing -/

/-- A pre-release is incremented by its fields, and a stable version is not. -/
theorem nextPrerelease_eq_ok_iff {version next : Version} : version.nextPrerelease = .ok next ↔
    version.isStable = false ∧ ∃ fields prerelease, version.prereleaseFields = .ok fields ∧
      fieldsText (advance fields) = .ok prerelease ∧
      { version.stableCore with prerelease } = next := by
  rw [Version.nextPrerelease]
  cases version.isStable with
  | true => simp
  | false =>
      simp only [Bool.false_eq_true, if_false, bind_eq_ok_iff, liftM_eq_ok_iff, pure, Except.pure,
        Except.ok.injEq, true_and]
      refine exists_congr fun fields => ?_
      rw [exists_and_left]

/-- What is printed for the fields that follow a pre-release is a pre-release with these fields. -/
lemma Version.WellFormed.fields_next {version : Version} (h : version.WellFormed)
    {fields : List Field} (read : version.prereleaseFields = .ok fields) {prerelease : String}
    (printed : fieldsText (advance fields) = .ok prerelease) :
    (prerelease = "" ∨ IsPrerelease prerelease.toList) ∧
      readFields prerelease = .ok (advance fields) := by
  have tokens := isPrerelease_iff_splitFields.1 h.prerelease
  have wellFormed := wellFormed_of_mem_advance ((readFields_eq_ok_iff tokens).1 read).1
  have valid := isPrerelease_of_fieldsText wellFormed printed
  exact ⟨valid, (readFields_eq_ok_iff (isPrerelease_iff_splitFields.1 valid)).2 ⟨wellFormed, printed⟩⟩

lemma Version.WellFormed.nextPrerelease {version : Version} (h : version.WellFormed)
    {next : Version} (ok : version.nextPrerelease = .ok next) : next.WellFormed := by
  obtain ⟨-, fields, prerelease, read, printed, rfl⟩ := nextPrerelease_eq_ok_iff.1 ok
  exact ⟨h.major, h.minor, h.patch, (h.fields_next read printed).1, .inl rfl⟩

/-- The version after a well-formed version is well-formed. -/
theorem Version.WellFormed.next {version : Version} (h : version.WellFormed)
    {identifier : Identifier} {next : Version} (ok : version.next identifier = .ok next) :
    next.WellFormed := by
  have major := h.major
  have minor := h.minor
  have patch := h.patch
  cases identifier with
  | major =>
      obtain rfl := Except.ok.inj ok
      exact ⟨by simp only; omega, le_rfl, le_rfl, .inl rfl, .inl rfl⟩
  | minor =>
      obtain rfl := Except.ok.inj ok
      exact ⟨major, by simp only; omega, le_rfl, .inl rfl, .inl rfl⟩
  | patch =>
      obtain rfl := Except.ok.inj ok
      exact ⟨major, minor, by simp only; omega, .inl rfl, .inl rfl⟩
  | prerelease => exact h.nextPrerelease ok
  | metadata => contradiction

/-! ## The invariant -/

namespace History

/-- The versions of a history: the current one and the saved ones. -/
def versions (history : History) : List Version :=
  history.current :: history.saved.map Prod.snd

/-- All versions of the history are well-formed. -/
def WellFormed (history : History) : Prop :=
  ∀ version ∈ history.versions, version.WellFormed

variable {history : History}

lemma WellFormed.current (h : history.WellFormed) : history.current.WellFormed :=
  h _ (List.mem_cons_self ..)

lemma WellFormed.saved (h : history.WellFormed) {name : String} {version : Version}
    (mem : (name, version) ∈ history.saved) : version.WellFormed :=
  h _ (List.mem_cons_of_mem _ (List.mem_map_of_mem mem))

theorem wellFormed_iff : history.WellFormed ↔ history.current.WellFormed ∧
    ∀ name version, (name, version) ∈ history.saved → version.WellFormed := by
  constructor
  · intro h
    exact ⟨h.current, fun _ _ => h.saved⟩
  · rintro ⟨current, saved⟩ version mem
    rcases List.mem_cons.1 mem with rfl | mem
    · exact current
    · obtain ⟨entry, kept, rfl⟩ := List.mem_map.1 mem
      exact saved entry.1 entry.2 kept

end History

/-- Saving a version adds no other version. -/
lemma mem_saveAs {name : String} {version : Version} {saved : List (String × Version)} :
    ∀ entry ∈ saveAs name version saved, entry = (name, version) ∨ entry ∈ saved := by
  induction saved with
  | nil => simp [saveAs]
  | cons head rest ih =>
      obtain ⟨other, kept⟩ := head
      intro entry mem
      rw [saveAs] at mem
      split at mem
      · simpa using mem
      · rcases List.mem_cons.1 mem with rfl | mem
        · exact .inl rfl
        · exact .inr (List.mem_cons_of_mem _ mem)
      · rcases List.mem_cons.1 mem with rfl | mem
        · exact .inr (List.mem_cons_self ..)
        · exact (ih entry mem).imp_right (List.mem_cons_of_mem _)

/-- Every step makes a well-formed version current. -/
theorem wellFormed_of_target {history : History} (h : history.WellFormed) {change : Change}
    {version : Version} (ok : history.target change = .ok version) : version.WellFormed := by
  cases change with
  | parse value =>
      cases value with
      | text content => exact wellFormed_of_exists_parse ⟨content, ok⟩
      | _ =>
          obtain ⟨_, -, thrown⟩ := bind_eq_ok_iff.1 ok
          contradiction
  | of arguments => exact wellFormed_of_exists_parse (exists_parse_of_ofArguments ok)
  | next place =>
      obtain ⟨identifier, -, ok⟩ := bind_eq_ok_iff.1 ok
      exact h.current.next ok
  | replace place value =>
      cases place with
      | identifier identifier => exact wellFormed_of_exists_parse (exists_parse_of_replace ok)
      | _ => contradiction
  | rebuild => exact wellFormed_of_exists_parse (exists_parse_of_build ok)
  | reparse =>
      obtain ⟨text, -, read⟩ := bind_eq_ok_iff.1 ok
      exact wellFormed_of_exists_parse ⟨text, read⟩
  | save name =>
      obtain rfl := Except.ok.inj ok
      exact h.current
  | load name =>
      rw [History.target] at ok
      split at ok
      · next kept found =>
          obtain rfl := Except.ok.inj ok
          obtain ⟨front, back, split, -⟩ := List.lookup_eq_some_iff.1 found
          have mem : (name, kept) ∈ history.saved := by
            rw [split]
            exact List.mem_append_right _ (List.mem_cons_self ..)
          exact h.saved mem
      · contradiction

/-- A step keeps the invariant. -/
theorem wellFormed_of_apply {history : History} (h : history.WellFormed) {change : Change}
    {after : History} (ok : history.apply change = .ok after) : after.WellFormed := by
  obtain ⟨current, target, ok⟩ := bind_eq_ok_iff.1 ok
  have wellFormed := wellFormed_of_target h target
  cases change with
  | save name =>
      obtain rfl := Except.ok.inj ok
      refine History.wellFormed_iff.2 ⟨wellFormed, fun other version mem => ?_⟩
      rcases mem_saveAs _ mem with same | mem
      · obtain ⟨rfl, rfl⟩ := Prod.mk.inj same
        exact wellFormed
      · exact h.saved mem
  | _ =>
      obtain rfl := Except.ok.inj ok
      exact History.wellFormed_iff.2 ⟨wellFormed, fun _ _ mem => h.saved mem⟩

/-- Any number of steps keep the invariant. -/
theorem wellFormed_run {history : History} (h : history.WellFormed) (changes : List Change) :
    (history.run changes).WellFormed := by
  induction changes generalizing history with
  | nil => exact h
  | cons change changes ih =>
      rw [History.run]
      split
      · next ok => exact ih (wellFormed_of_apply h ok)
      · exact ih h

/-! ## Building and reading again -/

/-- A well-formed version within the limit is built from its own components. -/
theorem rebuild_eq_self {version : Version} (h : version.WellFormed) (writable : version.Writable) :
    version.rebuild = .ok version := by
  obtain ⟨major, minor, patch, prerelease, metadata⟩ := version
  have built : Draft.build ⟨major, minor, patch, some prerelease, some metadata⟩ = .ok _ :=
    Draft.build_of_wellFormed writable h
  rw [Draft.build_eq_build] at built
  exact built

/-- **All versions along a history are well-formed.**  Whatever steps are made from a version that was
read, the current version and every saved version is well-formed, and as long as its numbers keep to
the digit limit it can be built from its components and read from its text again. -/
theorem run_wellFormed (text : String) (start : Version) (read : Version.parse text = .ok start)
    (changes : List Change) :
    ∀ version ∈ (History.run { current := start } changes).versions,
      version.WellFormed ∧
      (version.Writable → version.rebuild = .ok version ∧
        ∃ printed, version.text = .ok printed ∧ Version.parse printed = .ok version) := by
  intro version mem
  have initial : History.WellFormed { current := start } :=
    History.wellFormed_iff.2 ⟨(parse_eq_ok_iff.1 read).1, nofun⟩
  have wellFormed : version.WellFormed := wellFormed_run initial changes version mem
  exact ⟨wellFormed, fun writable => ⟨rebuild_eq_self wellFormed writable,
    wellFormed.exists_text writable⟩⟩

/-- A last field that gets a second digit, a saved version, and a step that fails. -/
theorem wellFormed_of_saved_prerelease :
    Version.parse "1.0.0-alpha.9" = .ok ⟨1, 0, 0, "alpha.9", ""⟩ ∧
    (History.run { current := ⟨1, 0, 0, "alpha.9", ""⟩ }
        [.next (.identifier .prerelease), .save "draft", .next (.identifier .patch),
          .replace (.identifier .major) (.int (-1))]).versions =
      [⟨1, 0, 1, "", ""⟩, ⟨1, 0, 0, "alpha.10", ""⟩] ∧
    Version.WellFormed ⟨1, 0, 0, "alpha.10", ""⟩ ∧
    Version.rebuild ⟨1, 0, 0, "alpha.10", ""⟩ = .ok ⟨1, 0, 0, "alpha.10", ""⟩ := by
  have small : Version.Writable ⟨1, 0, 0, "alpha.9", ""⟩ :=
    Version.writable_of_lt_ten (by decide) (by decide) (by decide)
  have read : Version.parse "1.0.0-alpha.9" = .ok ⟨1, 0, 0, "alpha.9", ""⟩ :=
    parse_eq_ok_iff.2 ⟨by decide +kernel, Version.text_eq_ok_iff.2 ⟨small, by decide +kernel⟩⟩
  have versions : (History.run { current := ⟨1, 0, 0, "alpha.9", ""⟩ }
      [.next (.identifier .prerelease), .save "draft", .next (.identifier .patch),
        .replace (.identifier .major) (.int (-1))]).versions =
      [⟨1, 0, 1, "", ""⟩, ⟨1, 0, 0, "alpha.10", ""⟩] := by
    decide +kernel
  have invariant := run_wellFormed _ _ read [.next (.identifier .prerelease), .save "draft",
    .next (.identifier .patch), .replace (.identifier .major) (.int (-1))]
  rw [versions] at invariant
  obtain ⟨wellFormed, again⟩ := invariant ⟨1, 0, 0, "alpha.10", ""⟩ (by decide)
  have writable : Version.Writable ⟨1, 0, 0, "alpha.10", ""⟩ := ⟨small.major, small.minor, small.patch⟩
  exact ⟨read, versions, wellFormed, (again writable).1⟩

end SemanticVersion
