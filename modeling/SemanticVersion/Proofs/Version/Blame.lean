import Mathlib.Algebra.GroupWithZero.Nat
import Mathlib.Order.WellFounded
import SemanticVersion.Proofs.Version.Refusal
import SemanticVersion.Version.Change

/-!
# Which component is to blame

A version that is built from components is never checked component by component: the components are
assembled to a text, and the offset at which the text is refused is traced back to the component that
it lies in.  This file shows that the outcome is what separate checks would give.  The version is built
exactly when every component is valid on its own, and otherwise **the first invalid component is
blamed**, in the order of significance.

* `Identifier.Admits`, `Value.held` — the values that are valid for an identifier on their own, and what a
  version holds for them.
* `Draft`, `Draft.build`, `Draft.IsCulprit` — five components, what is built from them, and the first
  invalid one.
* `ownerAt_eq` — the part to blame for an offset, wherever the part stands.
* `Draft.build_of_wellFormed`, `Draft.build_of_conflated`, `Draft.build_of_rejected` — the three
  outcomes.
* `build_blames_first_invalid` — all of it together.
-/

namespace SemanticVersion

/-! ## Components on their own -/

/-- The values that are valid for an identifier on their own. -/
def Identifier.Admits : Identifier → Value → Prop
  | .major, .int n | .minor, .int n | .patch, .int n => 0 ≤ n
  | .prerelease, .nothing | .metadata, .nothing => True
  | .prerelease, .text content => content = "" ∨ IsPrerelease content.toList
  | .metadata, .text content => content = "" ∨ IsMetadata content.toList
  | _, _ => False

/-- The place of an identifier in the order of significance. -/
def Identifier.rank (identifier : Identifier) : Nat :=
  Identifier.all.idxOf identifier

/-- The value that a version holds for a given one.  For nothing at all it is the empty text. -/
def Value.held : Value → Value
  | .nothing => .text ""
  | value => value

/-- A value is as valid as what is held for it. -/
lemma Identifier.admits_held_iff {identifier : Identifier} {value : Value} :
    identifier.Admits value.held ↔ identifier.Admits value := by
  cases value with
  | nothing => cases identifier <;> simp [Admits, Value.held]
  | _ => rfl

/-- The versions that obey the grammar are those with valid components. -/
theorem Version.wellFormed_iff_get {version : Version} :
    version.WellFormed ↔
      ∀ identifier : Identifier, identifier.Admits (version.get identifier).toValue := by
  constructor
  · intro wellFormed identifier
    cases identifier with
    | major => exact wellFormed.major
    | minor => exact wellFormed.minor
    | patch => exact wellFormed.patch
    | prerelease => exact wellFormed.prerelease
    | metadata => exact wellFormed.metadata
  · intro valid
    exact ⟨valid .major, valid .minor, valid .patch, valid .prerelease, valid .metadata⟩

/-- Five components as they are given to build a version. -/
structure Draft where
  major : Int
  minor : Int
  patch : Int
  prerelease : Option String
  metadata : Option String

namespace Draft

variable (draft : Draft)

/-- The component at an identifier. -/
def value : Identifier → Value
  | .major => .int draft.major
  | .minor => .int draft.minor
  | .patch => .int draft.patch
  | .prerelease => .ofText? draft.prerelease
  | .metadata => .ofText? draft.metadata

/-- The version that holds the components, valid or not.  An absent text is empty. -/
def version : Version where
  major := draft.major
  minor := draft.minor
  patch := draft.patch
  prerelease := draft.prerelease.getD ""
  metadata := draft.metadata.getD ""

/-- What is built from the components. -/
def build : Except Error Version :=
  Version.of (draft.value .major) (draft.value .minor) (draft.value .patch)
    (draft.value .prerelease) (draft.value .metadata)

/-- The first component that is not valid on its own. -/
def IsCulprit (identifier : Identifier) : Prop :=
  ¬ identifier.Admits (draft.value identifier) ∧
    ∀ other : Identifier, other.rank < identifier.rank → other.Admits (draft.value other)

variable {draft : Draft}

lemma toValue_get_version {identifier : Identifier} :
    (draft.version.get identifier).toValue = (draft.value identifier).held := by
  obtain ⟨major, minor, patch, prerelease, metadata⟩ := draft
  cases identifier with
  | major | minor | patch => rfl
  | prerelease => cases prerelease <;> rfl
  | metadata => cases metadata <;> rfl

lemma admits_get_version_iff {identifier : Identifier} :
    identifier.Admits (draft.version.get identifier).toValue ↔
      identifier.Admits (draft.value identifier) := by
  rw [toValue_get_version, Identifier.admits_held_iff]

lemma admits_prerelease_iff :
    Identifier.prerelease.Admits (draft.value .prerelease) ↔
      draft.version.prerelease = "" ∨ IsPrerelease draft.version.prerelease.toList :=
  admits_get_version_iff.symm

lemma admits_metadata_iff :
    Identifier.metadata.Admits (draft.value .metadata) ↔
      draft.version.metadata = "" ∨ IsMetadata draft.version.metadata.toList :=
  admits_get_version_iff.symm

/-- All components are valid on their own exactly when the version that holds them is well-formed. -/
theorem wellFormed_iff_admits :
    draft.version.WellFormed ↔ ∀ identifier : Identifier, identifier.Admits (draft.value identifier) := by
  simp only [Version.wellFormed_iff_get, admits_get_version_iff]

/-- When some component is invalid there is a first one. -/
lemma exists_isCulprit (h : ¬ draft.version.WellFormed) :
    ∃ identifier, draft.IsCulprit identifier := by
  rw [wellFormed_iff_admits, not_forall] at h
  obtain ⟨culprit, invalid, first⟩ := WellFounded.has_min (measure Identifier.rank).wf
    {identifier : Identifier | ¬ identifier.Admits (draft.value identifier)} h
  exact ⟨culprit, invalid, fun other earlier =>
    not_not.1 fun invalid' => first other invalid' earlier⟩

/-! ## The assembled text -/

variable (draft) in
/-- The piece of the assembled text that belongs to an identifier. -/
def piece (identifier : Identifier) : Part where
  identifier := identifier
  value := draft.value identifier
  text := match identifier with
    | .major => String.ofList (integerDigits draft.major) ++ "."
    | .minor => String.ofList (integerDigits draft.minor) ++ "."
    | .patch => String.ofList (integerDigits draft.patch)
    | .prerelease => marked "-" (draft.prerelease.getD "")
    | .metadata => marked "+" (draft.metadata.getD "")

variable (draft) in
/-- The text that the pieces make up. -/
def assembled : String :=
  draft.version.toComponents.text

lemma parts_eq (writable : draft.version.Writable) :
    Version.parts draft.major draft.minor draft.patch draft.prerelease draft.metadata =
      .ok (Identifier.all.map draft.piece) := by
  have major : writeInteger draft.major = .ok _ := writeInteger_eq_ok_iff.2 ⟨writable.major, rfl⟩
  have minor : writeInteger draft.minor = .ok _ := writeInteger_eq_ok_iff.2 ⟨writable.minor, rfl⟩
  have patch : writeInteger draft.patch = .ok _ := writeInteger_eq_ok_iff.2 ⟨writable.patch, rfl⟩
  rw [Version.parts, major, minor, patch]
  rfl

lemma join_pieces :
    String.join ((Identifier.all.map draft.piece).map Part.text) = draft.assembled := by
  rw [← String.toList_inj, assembled, toList_text_toComponents]
  simp [Identifier.all, piece, version]

lemma build_eq_build :
    draft.build =
      Version.build draft.major draft.minor draft.patch draft.prerelease draft.metadata := by
  obtain ⟨major, minor, patch, prerelease, metadata⟩ := draft
  cases prerelease <;> cases metadata <;> rfl

/-- What is built within the limit: the text is read, and its version has to hold the components. -/
lemma build_eq (writable : draft.version.Writable) :
    draft.build =
      match Version.parse draft.assembled with
      | .error (.malformed report) =>
        let owner := ownerAt report.offset.toNat ⟨.major, .int draft.major, ""⟩ 0
          (Identifier.all.map draft.piece)
        Version.blame owner.identifier owner.value (some report)
      | .error error => throw error
      | .ok version =>
        if version.prerelease ≠ draft.prerelease.getD "" then
          Version.blame .prerelease (draft.value .prerelease) none
        else if version.metadata ≠ draft.metadata.getD "" then
          Version.blame .metadata (draft.value .metadata) none
        else return version := by
  rw [build_eq_build, Version.build, parts_eq writable, liftM_ok, ok_bind, join_pieces]
  cases Version.parse draft.assembled with
  | ok version => rfl
  | error failure => cases failure <;> rfl

end Draft

/-! ## The part to blame -/

/-- At a mark the part in front of it stays to blame, also across parts without a text. -/
lemma ownerAt_marked {offset : Nat} {owner : Part} {rest : List Part}
    (marked : ∀ part ∈ rest, part.identifier.isMarked = true) :
    ownerAt offset owner offset rest = owner := by
  induction rest with
  | nil => rfl
  | cons part rest ih =>
      obtain ⟨mark, marked⟩ := List.forall_mem_cons.1 marked
      rw [ownerAt]
      split
      · exact ih marked
      · next present =>
          have positive : 0 < part.text.length := by
            rw [Nat.pos_iff_ne_zero, ne_eq, String.length_eq_zero_iff]
            simpa using present
          rw [if_pos (by omega), if_pos ⟨rfl, mark⟩]

/-- A part is to blame for the offsets within it, its mark apart, and for the offset right behind it
when a mark or nothing follows. -/
theorem ownerAt_eq {offset : Nat} {part : Part} {after : List Part} (present : part.text ≠ "")
    {before : List Part} {owner : Part} {start : Nat}
    (low : start + (before.map fun p => p.text.length).sum ≤ offset)
    (mark : part.identifier.isMarked = true →
      start + (before.map fun p => p.text.length).sum ≠ offset)
    (high : offset ≤ start + (before.map fun p => p.text.length).sum + part.text.length)
    (behind : offset = start + (before.map fun p => p.text.length).sum + part.text.length →
      ∀ next ∈ after, next.identifier.isMarked = true) :
    ownerAt offset owner start (before ++ part :: after) = part := by
  induction before generalizing owner start with
  | nil =>
      simp only [List.map_nil, List.sum_nil, Nat.add_zero] at low mark high behind
      rw [List.nil_append, ownerAt, if_neg (by simpa using present)]
      by_cases within : offset < start + part.text.length
      · rw [if_pos within, if_neg]
        rintro ⟨rfl, marked⟩
        exact mark marked rfl
      · obtain rfl : offset = start + part.text.length := by omega
        rw [if_neg within]
        exact ownerAt_marked (behind rfl)
  | cons head before ih =>
      simp only [List.map_cons, List.sum_cons, ← Nat.add_assoc] at low mark high behind
      rw [List.cons_append, ownerAt]
      split
      · next empty =>
          have nothing : head.text.length = 0 := by
            rw [String.length_eq_zero_iff]
            simpa using empty
          rw [nothing, Nat.add_zero] at low mark high behind
          exact ih low mark high behind
      · rw [if_neg (by omega)]
        exact ih low mark high behind

namespace Draft

variable {draft : Draft}

variable (draft) in
/-- The offset at which the piece of an identifier starts. -/
def start (identifier : Identifier) : Nat :=
  ((Identifier.all.take identifier.rank).map fun other => (draft.piece other).text.length).sum

/-- The text is refused within the piece of the first invalid component.  A number is refused in front
of the end of its piece, and an optional part behind its mark. -/
theorem position_of_isCulprit {culprit : Identifier} (h : draft.IsCulprit culprit) :
    draft.start culprit ≤ (scan draft.assembled).position ∧
      (scan draft.assembled).position ≤ draft.start culprit + (draft.piece culprit).text.length ∧
      if culprit.isMarked then draft.start culprit < (scan draft.assembled).position
      else (scan draft.assembled).position <
        draft.start culprit + (draft.piece culprit).text.length := by
  obtain ⟨invalid, first⟩ := h
  have dot : ".".length = 1 := rfl
  have numbers : draft.version.numbers.length = (integerDigits draft.major).length + 1 +
      ((integerDigits draft.minor).length + 1) + (integerDigits draft.patch).length := by
    simp only [Version.numbers, version, List.length_append, List.length_cons]
    omega
  cases culprit with
  | major =>
      have position : (scan draft.assembled).position = 0 := position_of_major invalid
      have start : draft.start .major = 0 := rfl
      simp [start, position, piece, Identifier.isMarked, Identifier.isNumeric, dot]
  | minor =>
      have position : (scan draft.assembled).position = (integerDigits draft.major).length + 1 :=
        position_of_minor (first .major (by decide)) invalid
      have start : draft.start .minor = (integerDigits draft.major).length + 1 := by
        simp [Draft.start, Identifier.rank, Identifier.all, piece, dot]
      simp [start, position, piece, Identifier.isMarked, Identifier.isNumeric, dot]
  | patch =>
      have position : (scan draft.assembled).position =
          (integerDigits draft.major).length + 1 + ((integerDigits draft.minor).length + 1) :=
        position_of_patch (first .major (by decide)) (first .minor (by decide)) invalid
      have start : draft.start .patch =
          (integerDigits draft.major).length + 1 + ((integerDigits draft.minor).length + 1) := by
        simp [Draft.start, Identifier.rank, Identifier.all, piece, dot]
      have sign : integerDigits draft.patch ≠ [] := by
        rw [integerDigits_of_neg invalid]
        exact List.cons_ne_nil _ _
      simp [start, position, piece, Identifier.isMarked, Identifier.isNumeric,
        List.length_pos_iff, sign]
  | prerelease =>
      have position := @position_of_prerelease draft.version (first .major (by decide))
        (first .minor (by decide)) (first .patch (by decide)) (mt admits_prerelease_iff.2 invalid)
      have start : draft.start .prerelease = draft.version.numbers.length := by
        rw [numbers]
        simp [Draft.start, Identifier.rank, Identifier.all, piece, dot, Nat.add_assoc]
      rw [start]
      exact ⟨position.1.le, position.2, position.1⟩
  | metadata =>
      have position := @position_of_metadata draft.version (first .major (by decide))
        (first .minor (by decide)) (first .patch (by decide))
        (admits_prerelease_iff.1 (first .prerelease (by decide))) (mt admits_metadata_iff.2 invalid)
      have start : draft.start .metadata =
          draft.version.numbers.length + (marked "-" draft.version.prerelease).length := by
        rw [numbers]
        simp [Draft.start, Identifier.rank, Identifier.all, piece, dot, version, Nat.add_assoc]
      rw [start]
      exact ⟨position.1.le, position.2, position.1⟩

/-- Behind an optional part there are only optional parts. -/
lemma isMarked_of_mem_drop : ∀ {identifier : Identifier}, identifier.isMarked = true →
    ∀ other ∈ Identifier.all.drop (identifier.rank + 1), other.isMarked = true := by
  intro identifier
  cases identifier <;> decide

/-- So the first invalid component is the one to blame. -/
theorem ownerAt_of_isCulprit {culprit : Identifier} (h : draft.IsCulprit culprit) {owner : Part} :
    ownerAt (scan draft.assembled).position owner 0 (Identifier.all.map draft.piece) =
      draft.piece culprit := by
  obtain ⟨low, high, edge⟩ := position_of_isCulprit h
  have pieces : Identifier.all.map draft.piece = (Identifier.all.take culprit.rank).map draft.piece ++
      draft.piece culprit :: (Identifier.all.drop (culprit.rank + 1)).map draft.piece := by
    cases culprit <;> rfl
  have start : (((Identifier.all.take culprit.rank).map draft.piece).map
      fun part => part.text.length).sum = draft.start culprit := by
    rw [List.map_map]
    rfl
  have present : (draft.piece culprit).text ≠ "" := by
    intro empty
    rw [empty] at high edge
    have nothing : "".length = 0 := rfl
    split at edge <;> omega
  rw [pieces]
  refine ownerAt_eq present ?_ ?_ ?_ ?_
  · rw [start, Nat.zero_add]
    exact low
  · intro (marked : culprit.isMarked = true)
    rw [if_pos marked] at edge
    rw [start, Nat.zero_add]
    exact edge.ne
  · rw [start, Nat.zero_add]
    exact high
  · rw [start, Nat.zero_add]
    intro behind
    have marked : culprit.isMarked = true := by
      by_contra number
      rw [if_neg number] at edge
      exact edge.ne behind
    rw [List.forall_mem_map]
    exact isMarked_of_mem_drop marked

/-! ## The outcomes -/

lemma exists_literal (writable : draft.version.Writable) (identifier : Identifier) :
    ∃ shown, (draft.value identifier).literal = .ok shown := by
  have number : ∀ n : Int, IsWritable n → ∃ shown, (Value.int n).literal = .ok shown := by
    intro n within
    rw [Value.literal]
    exact ⟨_, writeInteger_eq_ok_iff.2 ⟨within, rfl⟩⟩
  have text : ∀ content : Option String, ∃ shown, (Value.ofText? content).literal = .ok shown := by
    intro content
    cases content with
    | none =>
        rw [Value.ofText?, Value.literal]
        exact ⟨_, rfl⟩
    | some content =>
        rw [Value.ofText?, Value.literal]
        exact ⟨_, rfl⟩
  cases identifier with
  | major => exact number _ writable.major
  | minor => exact number _ writable.minor
  | patch => exact number _ writable.patch
  | prerelease => exact text _
  | metadata => exact text _

/-- Within the limit blaming a component gives a report about it. -/
lemma exists_blame (writable : draft.version.Writable) (identifier : Identifier)
    (cause : Option Malformed) :
    ∃ report : InvalidField,
      Version.blame identifier (draft.value identifier) cause = .error (.invalidField report) ∧
      report.field = identifier.name ∧ report.value = draft.value identifier ∧
      report.cause = cause := by
  obtain ⟨shown, literal⟩ := exists_literal writable identifier
  rw [Version.blame, InvalidField.of, literal]
  exact ⟨_, rfl, rfl, rfl, rfl⟩

/-- Valid components are built to the version that holds them. -/
theorem build_of_wellFormed (writable : draft.version.Writable) (h : draft.version.WellFormed) :
    draft.build = .ok draft.version := by
  have read : Version.parse draft.assembled = .ok draft.version :=
    parse_eq_ok_iff.2 ⟨h, Version.text_eq_ok_iff.2 ⟨writable, rfl⟩⟩
  rw [build_eq writable, read]
  simp [version, pure, Except.pure]

/-- Only the pre-release of a conflated version is invalid. -/
lemma IsCulprit.eq_prerelease {culprit : Identifier} (h : draft.IsCulprit culprit)
    (conflated : draft.version.Conflated) : culprit = .prerelease := by
  obtain ⟨invalid, first⟩ := h
  have metadata : Identifier.metadata.Admits (draft.value .metadata) :=
    admits_metadata_iff.2 (.inl conflated.metadata)
  cases culprit with
  | major => exact absurd conflated.major invalid
  | minor => exact absurd conflated.minor invalid
  | patch => exact absurd conflated.patch invalid
  | prerelease => rfl
  | metadata => exact absurd metadata invalid

/-- A conflated pre-release is read, but not as it was given. -/
theorem build_of_conflated (writable : draft.version.Writable) (h : draft.version.Conflated) :
    draft.build = Version.blame .prerelease (draft.value .prerelease) none := by
  obtain ⟨other, wellFormed, text, ⟨major, minor, patch⟩, differs⟩ := h.exists_wellFormed
  have other_writable : other.Writable :=
    ⟨major ▸ writable.major, minor ▸ writable.minor, patch ▸ writable.patch⟩
  have read : Version.parse draft.assembled = .ok other :=
    parse_eq_ok_iff.2 ⟨wellFormed, Version.text_eq_ok_iff.2 ⟨other_writable, text⟩⟩
  rw [build_eq writable, read]
  exact if_pos differs

/-- When the text is refused, the first invalid component is blamed, with the report about the text. -/
theorem build_of_rejected (writable : draft.version.Writable)
    (rejected : (scan draft.assembled).state ≠ .matched) {culprit : Identifier}
    (h : draft.IsCulprit culprit) :
    draft.build = Version.blame culprit (draft.value culprit)
      (some (.unexpected draft.assembled (scan draft.assembled).position)) := by
  rw [build_eq writable, parse_eq_unexpected rejected]
  have offset : ((scan draft.assembled).position : Int).toNat = (scan draft.assembled).position :=
    Int.toNat_natCast _
  simp only [Malformed.unexpected, offset, ownerAt_of_isCulprit h]
  rfl

/-- Invalid components are reported by the first of them, whether or not the text is refused. -/
theorem exists_report (writable : draft.version.Writable) {culprit : Identifier}
    (first : draft.IsCulprit culprit) :
    ∃ report : InvalidField, draft.build = .error (.invalidField report) ∧
      report.field = culprit.name ∧ report.value = draft.value culprit ∧
      (report.cause = none ↔ draft.version.Conflated) ∧
      ∀ cause, report.cause = some cause →
        Version.parse draft.assembled = .error (.malformed cause) := by
  by_cases matched : (scan draft.assembled).state = .matched
  · have conflated : draft.version.Conflated := by
      refine (wellFormed_or_conflated (scan_state_eq_matched_iff.1 matched)).resolve_left ?_
      intro wellFormed
      exact first.1 (wellFormed_iff_admits.1 wellFormed culprit)
    obtain rfl : culprit = .prerelease := first.eq_prerelease conflated
    obtain ⟨report, blamed, field, value, cause⟩ := exists_blame writable .prerelease none
    refine ⟨report, (build_of_conflated writable conflated).trans blamed, field, value, ?_, ?_⟩
    · rw [cause]
      exact ⟨fun _ => conflated, fun _ => rfl⟩
    · rw [cause]
      exact nofun
  · obtain ⟨report, blamed, field, value, cause⟩ := exists_blame writable culprit _
    refine ⟨report, (build_of_rejected writable matched first).trans blamed, field, value, ?_, ?_⟩
    · rw [cause]
      refine ⟨nofun, fun conflated => ?_⟩
      exact absurd (scan_state_eq_matched_iff.2 conflated.isVersion_text) matched
    · rw [cause]
      intro _ same
      rw [← Option.some.inj same]
      exact parse_eq_unexpected matched

end Draft

/-- **The first invalid component is blamed.**  Within the digit limit a version is built exactly when
all components are valid on their own, and it holds these components.  Otherwise there is a report
about the first invalid component and its value.  The report has no cause exactly when a valid
pre-release and valid metadata stand in the place of the pre-release, and every other cause is the
report about the assembled text. -/
theorem build_blames_first_invalid (draft : Draft) (writable : draft.version.Writable) :
    ((∃ version, draft.build = .ok version) ↔
      ∀ identifier : Identifier, identifier.Admits (draft.value identifier)) ∧
    (∀ version, draft.build = .ok version → version = draft.version) ∧
    ((¬ ∀ identifier : Identifier, identifier.Admits (draft.value identifier)) →
      ∃ (culprit : Identifier) (report : InvalidField), draft.IsCulprit culprit ∧
        draft.build = .error (.invalidField report) ∧
        report.field = culprit.name ∧ report.value = draft.value culprit ∧
        (report.cause = none ↔ draft.version.Conflated) ∧
        ∀ cause, report.cause = some cause → ∃ text, draft.version.text = .ok text ∧
          Version.parse text = .error (.malformed cause)) := by
  rw [← Draft.wellFormed_iff_admits]
  by_cases wellFormed : draft.version.WellFormed
  · have built := Draft.build_of_wellFormed writable wellFormed
    refine ⟨⟨fun _ => wellFormed, fun _ => ⟨_, built⟩⟩, ?_, fun invalid => absurd wellFormed invalid⟩
    intro version same
    exact Except.ok.inj (same.symm.trans built)
  · obtain ⟨culprit, first⟩ := Draft.exists_isCulprit wellFormed
    obtain ⟨report, reported, field, value, cause, malformed⟩ := Draft.exists_report writable first
    have printed : draft.version.text = .ok draft.assembled :=
      Version.text_eq_ok_iff.2 ⟨writable, rfl⟩
    refine ⟨⟨?_, fun h => absurd h wellFormed⟩, ?_, fun _ => ⟨culprit, report, first, reported,
      field, value, cause, fun _ some => ⟨_, printed, malformed _ some⟩⟩⟩
    · rintro ⟨version, built⟩
      rw [reported] at built
      contradiction
    · intro version built
      rw [reported] at built
      contradiction

/-- The metadata of a pre-release is no part of it, so the pre-release is blamed although the assembled
text is a version text. -/
theorem blame_of_conflated :
    Version.Writable (Draft.version ⟨1, 0, 0, some "rc.1+5", none⟩) ∧
    ∃ report : InvalidField,
      Draft.build ⟨1, 0, 0, some "rc.1+5", none⟩ = .error (.invalidField report) ∧
      report.field = "prerelease" ∧ report.value = .text "rc.1+5" ∧ report.cause = none := by
  have writable : Version.Writable (Draft.version ⟨1, 0, 0, some "rc.1+5", none⟩) :=
    Version.writable_of_lt_ten (by decide) (by decide) (by decide)
  have conflated : Version.Conflated (Draft.version ⟨1, 0, 0, some "rc.1+5", none⟩) :=
    ⟨by decide, by decide, by decide, ⟨"rc.1", "5", by decide, by decide, rfl⟩, rfl⟩
  have invalid : ¬ Version.WellFormed (Draft.version ⟨1, 0, 0, some "rc.1+5", none⟩) := by
    decide +kernel
  obtain ⟨-, -, report⟩ := build_blames_first_invalid _ writable
  obtain ⟨culprit, report, first, built, field, value, cause, -⟩ :=
    report (mt Draft.wellFormed_iff_admits.2 invalid)
  obtain rfl := first.eq_prerelease conflated
  exact ⟨writable, report, built, field, value, cause.2 conflated⟩

end SemanticVersion
