import SemanticVersion.Proofs.Version.Keys
import SemanticVersion.Proofs.Version.Validity

/-!
# When versions can be ordered

A text is accepted without a look at the values of its pre-release tokens.  They are read later, by the
operations that order versions, and a run of digits over the limit is refused then.  So **accepted
versions cannot always be ordered**: whether two of them compare depends on both, while a key, and with
it a place in a sorted list, depends on the version alone.

For each operation the reason why it fails is worked out, if it does.  An operation made of several ones
fails for the reason of the first that fails (`failure?`), so the reasons are put together the way the
operations are.

* `refusedToken?`, `Version.refusedField?` — why a token and the fields of a version are not read.
* `Version.needsFields`, `Version.refusedOrder?` — why two versions are not compared.
* `failure?_precedence`, `failure?_precedenceKey` and the like — the same for each operation.
* `failure?_sortVersions`, `failure?_greatestVersion` — the same for lists of versions.
* `accepted_ordered_iff` — which lists of accepted texts, and which two of them, can be ordered.
* `comparison_of_4301_digits` — accepted texts that cannot.
-/

namespace SemanticVersion

/-! ## Fields -/

/-- Why a token is not read as a field, if it is not: a run of digits over the limit is refused. -/
def refusedToken? (token : String) : Option DigitLimit :=
  if isNatural token = true ∧ digitLimit < token.length then some (.reading token.length) else none

lemma failure?_ofToken (token : String) : failure? (Field.ofToken token) = refusedToken? token := by
  rw [Field.ofToken, refusedToken?]
  by_cases natural : isNatural token = true
  · rw [if_pos natural, failure?_bind_pure, readNatural, String.length_toList]
    by_cases short : token.length ≤ digitLimit
    · simp [short, failure?]
    · simp [short, failure?, natural, Nat.lt_of_not_le short]
  · simp [natural, failure?, pure, Except.pure]

namespace Version

/-- Why the fields of a version are not read, if they are not. -/
def refusedField? (version : Version) : Option DigitLimit :=
  (splitFields version.prerelease).findSome? refusedToken?

theorem failure?_prereleaseFields (version : Version) :
    failure? version.prereleaseFields = version.refusedField? := by
  rw [prereleaseFields, readFields, failure?_mapM, refusedField?]
  simp only [failure?_ofToken]

lemma refusedField?_eq_none_iff {version : Version} :
    version.refusedField? = none ↔ version.FieldsReadable := by
  simp only [refusedField?, List.findSome?_eq_none_iff, FieldsReadable, refusedToken?]
  simp

/-- A stable version has no fields that could be refused. -/
lemma refusedField?_of_isStable {version : Version} (stable : version.isStable = true) :
    version.refusedField? = none := by
  rw [isStable, String.isEmpty_iff] at stable
  rw [refusedField?, stable]
  rfl

/-! ## Pairs of versions -/

/-- Whether fields decide which of two versions comes first: the numbers do not, and neither version is
stable. -/
def needsFields (a b : Version) : Bool :=
  a.compareNumbers b == .eq && !a.isStable && !b.isStable

/-- Why two versions are not compared, if they are not. -/
def refusedOrder? (a b : Version) : Option DigitLimit :=
  if a.needsFields b then a.refusedField?.or b.refusedField? else none

lemma refusedOrder?_eq_none_iff {a b : Version} : a.refusedOrder? b = none ↔
    (a.needsFields b = true → a.FieldsReadable ∧ b.FieldsReadable) := by
  simp only [refusedOrder?, ← refusedField?_eq_none_iff]
  split <;> simp_all

theorem failure?_precedence (a b : Version) : failure? (a.precedence b) = a.refusedOrder? b := by
  rw [precedence, refusedOrder?, needsFields]
  cases a.compareNumbers b with
  | lt => rfl
  | gt => rfl
  | eq =>
      cases a.isStable with
      | true => rfl
      | false =>
          cases b.isStable with
          | true => rfl
          | false =>
              -- only here the fields are read, those of the first version first
              show failure? (a.prereleaseFields >>= _) = a.refusedField?.or b.refusedField?
              rw [← failure?_prereleaseFields, ← failure?_prereleaseFields]
              refine failure?_bind _ _ _ fun fields _ => ?_
              exact failure?_bind_pure _ _

theorem failure?_strictOrder (a b : Version) : failure? (a.strictOrder b) = a.refusedOrder? b := by
  rw [strictOrder, failure?_bind_pure, failure?_precedence]

theorem failure?_lt (a b : Version) : failure? (a.lt b) = a.refusedOrder? b := by
  rw [lt, failure?_bind_pure, failure?_strictOrder]

/-! ## Keys -/

theorem failure?_precedenceKey (version : Version) :
    failure? version.precedenceKey = version.refusedField? := by
  rw [precedenceKey, failure?_bind_pure, prereleaseKey]
  by_cases stable : version.isStable = true
  · rw [if_pos stable, refusedField?_of_isStable stable]
    rfl
  · rw [if_neg stable, failure?_bind_pure, failure?_prereleaseFields]

theorem failure?_strictKey (version : Version) :
    failure? version.strictKey = version.refusedField? := by
  rw [strictKey, failure?_bind_pure, failure?_precedenceKey]

end Version

/-! ## Lists of versions -/

lemma failure?_keyed (mode : SortMode) (versions : List Version) :
    failure? (keyed mode versions) = versions.findSome? Version.refusedField? := by
  have key : ∀ version : Version, failure? (version.keyed mode) = version.refusedField? := by
    intro version
    rw [Version.keyed, failure?_bind_pure]
    cases mode with
    | strict => exact version.failure?_strictKey
    | precedence => exact version.failure?_precedenceKey
  rw [keyed, failure?_mapM]
  simp only [key]

/-- A list is not sorted for the reason of the first version whose fields are refused, whatever the mode
and the direction. -/
theorem failure?_sortVersions (mode : SortMode) (reverse : Bool) (versions : List Version) :
    failure? (sortVersions mode reverse versions) = versions.findSome? Version.refusedField? := by
  rw [sortVersions, failure?_bind_pure, failure?_keyed]

/-- A greatest version is missing for the same reason, unless there are no versions at all. -/
theorem failure?_greatestVersion {versions : List Version} (nonempty : versions ≠ []) :
    failure? (greatestVersion versions) =
      (versions.findSome? Version.refusedField?).map .digitLimit := by
  rw [greatestVersion, failure?_bind _ _ none, failure?_liftM, failure?_keyed, Option.or_none]
  intro entries computed
  have length := (mapM_eq_ok_iff.1 (liftM_eq_ok_iff.1 computed)).length_eq
  cases entries with
  | nil => exact absurd (List.length_eq_zero_iff.1 length) nonempty
  | cons first rest => rfl

/-! ## Lists of texts -/

section Texts

variable {texts : List String} {versions : List Version}
  (accepted : List.Forall₂ (fun text version => Version.parse text = .ok version) texts versions)
include accepted

/-- Accepted texts are resolved to what is read from them. -/
lemma mapM_resolved_text : (texts.map Value.text).mapM Value.resolved = .ok (versions.map .version) := by
  rw [mapM_eq_ok_iff, List.forall₂_map_left_iff, List.forall₂_map_right_iff]
  refine accepted.imp fun text version read => ?_
  rw [Value.resolved, read]
  rfl

/-- Accepted texts have the keys of what is read from them. -/
lemma keyedValues_text (mode : SortMode) :
    keyedValues mode (texts.map .text) = liftM (keyed mode versions) := by
  rw [← keyedValues_version, keyedValues, keyedValues, mapM_resolved_text accepted,
    Value.mapM_resolved_version]

lemma sortValues_text (mode : SortMode) (reverse : Bool) :
    sortValues mode reverse (texts.map .text) = liftM (sortVersions mode reverse versions) := by
  rw [← sortValues_version, sortValues, sortValues, keyedValues_text accepted, keyedValues_version]

lemma greatestValue_text : greatestValue (texts.map .text) = greatestVersion versions := by
  rw [greatestValue, greatestVersion, keyedValues_text accepted]

end Texts

/-! ## Which versions can be ordered -/

/-- **Accepted versions can be ordered as far as their fields keep to the digit limit.**  Two of them are
compared unless fields have to decide and one of the two pre-releases has a number over the limit, and
then the first such number is reported.  A version has its keys, and the list of the texts is sorted in
either mode and has a greatest version, unless a pre-release has a number over the limit, whether or not
it is compared. -/
theorem accepted_ordered_iff (texts : List String) (versions : List Version)
    (accepted : List.Forall₂ (fun text version => Version.parse text = .ok version) texts versions) :
    (∀ a ∈ versions, ∀ b ∈ versions,
      ((∃ order, a.precedence b = .ok order) ↔
        (a.needsFields b = true → a.FieldsReadable ∧ b.FieldsReadable)) ∧
      ((∃ order, a.strictOrder b = .ok order) ↔
        (a.needsFields b = true → a.FieldsReadable ∧ b.FieldsReadable)) ∧
      ((∃ answer, a.lt b = .ok answer) ↔
        (a.needsFields b = true → a.FieldsReadable ∧ b.FieldsReadable)) ∧
      ((∃ key, a.precedenceKey = .ok key) ↔ a.FieldsReadable) ∧
      ((∃ key, a.strictKey = .ok key) ↔ a.FieldsReadable) ∧
      ∀ limit, a.precedence b = .error limit ↔ a.refusedOrder? b = some limit) ∧
    (∀ mode reverse, (∃ sorted, sortValues mode reverse (texts.map .text) = .ok sorted) ↔
      ∀ version ∈ versions, version.FieldsReadable) ∧
    (texts ≠ [] → ((∃ greatest, greatestValue (texts.map .text) = .ok greatest) ↔
      ∀ version ∈ versions, version.FieldsReadable)) := by
  have readable : versions.findSome? Version.refusedField? = none ↔
      ∀ version ∈ versions, version.FieldsReadable := by
    simp only [List.findSome?_eq_none_iff, Version.refusedField?_eq_none_iff]
  refine ⟨fun a _ b _ => ?_, fun mode reverse => ?_, fun nonempty => ?_⟩
  · simp only [← failure?_eq_none_iff, ← failure?_eq_some_iff, Version.failure?_precedence,
      Version.failure?_strictOrder, Version.failure?_lt, Version.failure?_precedenceKey,
      Version.failure?_strictKey, Version.refusedField?_eq_none_iff,
      Version.refusedOrder?_eq_none_iff, implies_true, and_self]
  · rw [← failure?_eq_none_iff, sortValues_text accepted, failure?_liftM, failure?_sortVersions,
      Option.map_eq_none_iff, readable]
  · have some : versions ≠ [] := by
      rintro rfl
      exact nonempty (List.forall₂_nil_right_iff.1 accepted)
    rw [← failure?_eq_none_iff, greatestValue_text accepted, failure?_greatestVersion some,
      Option.map_eq_none_iff, readable]

/-- Two accepted texts of the same numbers, so that their fields decide. -/
theorem ordered_of_two_digits :
    (Version.parse "1.0.0-rc.10" = .ok ⟨1, 0, 0, "rc.10", ""⟩ ∧
      Version.parse "1.0.0-rc.9" = .ok ⟨1, 0, 0, "rc.9", ""⟩) ∧
    Version.needsFields ⟨1, 0, 0, "rc.10", ""⟩ ⟨1, 0, 0, "rc.9", ""⟩ = true ∧
    (∃ order, Version.precedence ⟨1, 0, 0, "rc.10", ""⟩ ⟨1, 0, 0, "rc.9", ""⟩ = .ok order) ∧
    (∃ sorted, sortValues .strict true [.text "1.0.0-rc.10", .text "1.0.0-rc.9"] = .ok sorted) ∧
    ∃ greatest, greatestValue [.text "1.0.0-rc.10", .text "1.0.0-rc.9"] = .ok greatest := by
  have small : ∀ prerelease, Version.Writable ⟨1, 0, 0, prerelease, ""⟩ := fun _ =>
    Version.writable_of_lt_ten (by simp) (by simp) (by simp)
  have ten : Version.parse "1.0.0-rc.10" = .ok ⟨1, 0, 0, "rc.10", ""⟩ :=
    parse_eq_ok_iff.2 ⟨by decide +kernel, Version.text_eq_ok_iff.2 ⟨small _, by decide +kernel⟩⟩
  have nine : Version.parse "1.0.0-rc.9" = .ok ⟨1, 0, 0, "rc.9", ""⟩ :=
    parse_eq_ok_iff.2 ⟨by decide +kernel, Version.text_eq_ok_iff.2 ⟨small _, by decide +kernel⟩⟩
  have readable : ∀ version ∈ [⟨1, 0, 0, "rc.10", ""⟩, ⟨1, 0, 0, "rc.9", ""⟩],
      Version.FieldsReadable version := by decide +kernel
  obtain ⟨pairs, sorted, greatest⟩ := accepted_ordered_iff ["1.0.0-rc.10", "1.0.0-rc.9"] _
    (.cons ten (.cons nine .nil))
  exact ⟨⟨ten, nine⟩, by decide +kernel,
    (pairs _ (by simp) _ (by simp)).1.2 fun _ => ⟨readable _ (by simp), readable _ (by simp)⟩,
    (sorted .strict true).2 readable, (greatest (by simp)).2 readable⟩

/-! ## Accepted texts that cannot be ordered -/

/-- A run of ones. -/
def ones (digits : Nat) : String :=
  String.ofList (List.replicate digits '1')

section Ones

variable {digits : Nat}

lemma toList_ones : (ones digits).toList = List.replicate digits '1' :=
  String.toList_ofList

lemma ones_ne_empty (nonempty : digits ≠ 0) : ones digits ≠ "" := by
  intro empty
  have length := congrArg String.length empty
  rw [ones, String.length_ofList, List.length_replicate] at length
  exact nonempty length

lemma isPrereleaseToken_ones (nonempty : digits ≠ 0) : IsPrereleaseToken (ones digits).toList :=
  isPrereleaseToken_of_isNumber (onesParts_wellFormed nonempty).major

/-- A run of ones is accepted as a pre-release, whatever its length. -/
lemma parse_ones (nonempty : digits ≠ 0) :
    Version.parse ("1.0.0-" ++ ones digits) = .ok ⟨1, 0, 0, ones digits, ""⟩ := by
  rw [parse_eq_ok_iff, Version.text_eq_ok_iff]
  refine ⟨⟨by simp, by simp, by simp, .inr (.single (isPrereleaseToken_ones nonempty)), .inl rfl⟩,
    Version.writable_of_lt_ten (by simp) (by simp) (by simp), ?_⟩
  have one : String.ofList (integerDigits 1) = "1" := rfl
  have zero : String.ofList (integerDigits 0) = "0" := rfl
  simp [Version.toComponents, Components.text, marked, one, zero, ones_ne_empty nonempty]
  exact String.append_assoc.symm

lemma refusedField?_ones (long : digitLimit < digits) (metadata : String) :
    Version.refusedField? ⟨1, 0, 0, ones digits, metadata⟩ = some (.reading digits) := by
  have nonempty : digits ≠ 0 := by omega
  have token := isPrereleaseToken_ones nonempty
  have tokens : splitFields (ones digits) = [ones digits] := by
    simpa using @splitFields_intercalate [ones digits] (by simpa using token)
  have natural : isNatural (ones digits) = true := (onesParts_wellFormed nonempty).major.1
  have length : (ones digits).length = digits := by
    rw [← String.length_toList, toList_ones, List.length_replicate]
  simp [Version.refusedField?, tokens, refusedToken?, natural, length, long]

end Ones

/-- Two accepted texts that are not compared, since the first has a pre-release token of 4301 digits.
The version of this text has no keys either, so no list that it belongs to is sorted. -/
theorem comparison_of_4301_digits :
    Version.parse ("1.0.0-" ++ ones 4301) = .ok ⟨1, 0, 0, ones 4301, ""⟩ ∧
    Version.parse ("1.0.0-" ++ ones 1) = .ok ⟨1, 0, 0, ones 1, ""⟩ ∧
    Version.precedence ⟨1, 0, 0, ones 4301, ""⟩ ⟨1, 0, 0, ones 1, ""⟩ = .error (.reading 4301) ∧
    Version.strictOrder ⟨1, 0, 0, ones 4301, ""⟩ ⟨1, 0, 0, ones 1, ""⟩ = .error (.reading 4301) ∧
    Version.lt ⟨1, 0, 0, ones 4301, ""⟩ ⟨1, 0, 0, ones 1, ""⟩ = .error (.reading 4301) ∧
    Version.precedenceKey ⟨1, 0, 0, ones 4301, ""⟩ = .error (.reading 4301) ∧
    Version.strictKey ⟨1, 0, 0, ones 4301, ""⟩ = .error (.reading 4301) ∧
    (∀ mode reverse, sortValues mode reverse [.text ("1.0.0-" ++ ones 4301)] =
      .error (.digitLimit (.reading 4301))) ∧
    greatestValue [.text ("1.0.0-" ++ ones 4301)] = .error (.digitLimit (.reading 4301)) ∧
    ¬ ∀ (s t : String) (a b : Version), Version.parse s = .ok a → Version.parse t = .ok b →
      ∃ order, a.precedence b = .ok order := by
  have read : Version.parse ("1.0.0-" ++ ones 4301) = .ok ⟨1, 0, 0, ones 4301, ""⟩ :=
    parse_ones (by decide)
  have read' : Version.parse ("1.0.0-" ++ ones 1) = .ok ⟨1, 0, 0, ones 1, ""⟩ :=
    parse_ones (by decide)
  have refused : Version.refusedField? ⟨1, 0, 0, ones 4301, ""⟩ = some (.reading 4301) :=
    refusedField?_ones (by decide) ""
  have needed : Version.needsFields ⟨1, 0, 0, ones 4301, ""⟩ ⟨1, 0, 0, ones 1, ""⟩ = true := by
    simp [Version.needsFields, Version.isStable, Version.compareNumbers, ones_ne_empty]
  have refusedOrder : Version.refusedOrder? ⟨1, 0, 0, ones 4301, ""⟩ ⟨1, 0, 0, ones 1, ""⟩ =
      some (.reading 4301) := by
    rw [Version.refusedOrder?, if_pos needed, refused, Option.some_or]
  have accepted : List.Forall₂ (fun text version => Version.parse text = .ok version)
      ["1.0.0-" ++ ones 4301] [⟨1, 0, 0, ones 4301, ""⟩] := .cons read .nil
  have uncompared : Version.precedence ⟨1, 0, 0, ones 4301, ""⟩ ⟨1, 0, 0, ones 1, ""⟩ =
      .error (.reading 4301) := by
    rw [← failure?_eq_some_iff, Version.failure?_precedence, refusedOrder]
  refine ⟨read, read', uncompared, ?_, ?_, ?_, ?_, ?_, ?_, ?_⟩
  · rw [← failure?_eq_some_iff, Version.failure?_strictOrder, refusedOrder]
  · rw [← failure?_eq_some_iff, Version.failure?_lt, refusedOrder]
  · rw [← failure?_eq_some_iff, Version.failure?_precedenceKey, refused]
  · rw [← failure?_eq_some_iff, Version.failure?_strictKey, refused]
  · intro mode reverse
    have sorted := sortValues_text accepted mode reverse
    rw [List.map_singleton] at sorted
    rw [← failure?_eq_some_iff, sorted, failure?_liftM, failure?_sortVersions]
    simp [refused]
  · have greatest := greatestValue_text accepted
    rw [List.map_singleton] at greatest
    rw [← failure?_eq_some_iff, greatest, failure?_greatestVersion (by simp)]
    simp [refused]
  · intro ordered
    obtain ⟨order, compared⟩ := ordered _ _ _ _ read read'
    rw [uncompared] at compared
    cases compared

end SemanticVersion
