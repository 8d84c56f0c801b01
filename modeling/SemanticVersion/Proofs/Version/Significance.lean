import SemanticVersion.Proofs.Version.Increments
import SemanticVersion.Proofs.Version.Replacement

/-!
# Increments and significance

The identifiers are listed from the most to the least significant one, and an increment keeps what is more
significant and resets what is less significant.  Three things follow from this.

**Increments are replacements.**  An increment puts the new version together directly, and a pre-release is
taken apart into fields for it.  A replacement is printed, read again and compared with what was given.  Still
both leave the same version behind (`version_replacement_next`), and they part only where the incremented
version is beyond the digit limit and cannot be printed (`replace_agrees_with_next`).

**More significant increments lead further.**  The version after another at an identifier comes before the one
at every more significant identifier (`precedes_of_rank_lt`).  The stable version of the same numbers stands
between the increment of the pre-release and those of the numbers.

**Increments of numbers are monotone.**  What an increment resets has no say any more, and what is kept decides
as before (`AtMost.increment`).  This does not hold of pre-releases: `1` comes before `1.0`, and `1.1`, which follows
the second, comes before `2`, which follows the first.

* `Version.AtMost` — the first version has at most the precedence of the second.
* `replace_agrees_with_next`, `increments_respect_order` — the two results.
-/

namespace SemanticVersion

namespace Version

variable {a b version next : Version} {identifier : Identifier}

/-! ## Increments are replacements -/

/-- An increment is what a replacement by the incremented component is built from. -/
theorem version_replacement_next (ok : version.next identifier = .ok next) :
    (version.replacement identifier (next.get identifier).toValue).version = next := by
  cases identifier with
  | metadata => contradiction
  | prerelease =>
      obtain ⟨-, fields, prerelease, -, -, rfl⟩ := nextPrerelease_eq_ok_iff.1 ok
      rfl
  | major | minor | patch =>
      obtain rfl := Except.ok.inj ok
      rfl

/-! ## The numbers decide -/

lemma isLE_compareNumbers_iff : (a.compareNumbers b).isLE ↔ a.major < b.major ∨
    a.major = b.major ∧ (a.minor < b.minor ∨ a.minor = b.minor ∧ a.patch ≤ b.patch) := by
  rw [Ordering.isLE_iff_eq_lt_or_eq_eq, compareNumbers_eq_lt_iff, compareNumbers_eq_eq_iff]
  omega

/-- Two stable versions are compared by their numbers. -/
lemma precedence_of_isStable (stable : a.isStable = true) (stable' : b.isStable = true) :
    a.precedence b = .ok (a.compareNumbers b) := by
  rw [precedence, stable, stable']
  cases a.compareNumbers b <;> rfl

lemma precedes_iff_of_isStable (stable : a.isStable = true) (stable' : b.isStable = true) :
    a.Precedes b ↔ a.compareNumbers b = .lt := by
  rw [Precedes, precedence_of_isStable stable stable', Except.ok.injEq]

/-- The first version has at most the precedence of the second. -/
def AtMost (a b : Version) : Prop :=
  ∃ order, a.precedence b = .ok order ∧ order.isLE

lemma Precedes.atMost (h : a.Precedes b) : a.AtMost b :=
  ⟨.lt, h, rfl⟩

/-- Numbers are compared first, so they are in order when the versions are. -/
lemma AtMost.isLE_compareNumbers (h : a.AtMost b) : (a.compareNumbers b).isLE := by
  obtain ⟨order, compared, le⟩ := h
  rw [precedence] at compared
  cases numbers : a.compareNumbers b with
  | lt | eq => rfl
  | gt =>
      rw [numbers] at compared
      obtain rfl := Except.ok.inj compared
      exact le

/-! ## The stable version of the same numbers -/

lemma compareNumbers_stableCore : version.compareNumbers version.stableCore = .eq :=
  compareNumbers_eq_eq_iff.2 ⟨rfl, rfl, rfl⟩

lemma precedes_stableCore (unstable : version.isStable = false) :
    version.Precedes version.stableCore :=
  precedes_iff.2 (.inr ⟨compareNumbers_stableCore, unstable, .inl rfl⟩)

lemma atMost_stableCore : version.AtMost version.stableCore := by
  cases stable : version.isStable with
  | false => exact (precedes_stableCore stable).atMost
  | true =>
      refine ⟨_, precedence_of_isStable stable rfl, ?_⟩
      rw [compareNumbers_stableCore]
      rfl

/-- An increment of a pre-release stays with the numbers. -/
lemma stableCore_of_nextPrerelease (ok : version.nextPrerelease = .ok next) :
    next.stableCore = version.stableCore := by
  obtain ⟨-, fields, prerelease, -, -, rfl⟩ := nextPrerelease_eq_ok_iff.1 ok
  rfl

/-- What follows a pre-release comes before the stable version too. -/
lemma WellFormed.nextPrerelease_precedes_stableCore (h : version.WellFormed)
    (ok : version.nextPrerelease = .ok next) : next.Precedes version.stableCore := by
  rw [← stableCore_of_nextPrerelease ok]
  exact precedes_stableCore (h.precedes_nextPrerelease ok).1

/-- An increment of a number leaves the numbers of the version behind. -/
lemma stableCore_precedes_next (numeric : identifier.isNumeric = true)
    (ok : version.next identifier = .ok next) : version.stableCore.Precedes next := by
  refine precedes_iff.2 (.inl (compareNumbers_eq_lt_iff.2 ?_))
  cases identifier with
  | prerelease | metadata => contradiction
  | major | minor | patch =>
      obtain rfl := Except.ok.inj ok
      dsimp only [stableCore]
      omega

/-- No stable version comes between the numbers of a version and the next greater patch. -/
lemma not_between_stableCore_and_patch (ok : version.next .patch = .ok next) {between : Version}
    (stable : between.isStable = true) :
    ¬ (version.stableCore.Precedes between ∧ between.Precedes next) := by
  obtain rfl := Except.ok.inj ok
  rw [precedes_iff_of_isStable rfl stable, precedes_iff_of_isStable stable rfl,
    compareNumbers_eq_lt_iff, compareNumbers_eq_lt_iff]
  dsimp only [stableCore]
  omega

/-! ## Increments in the order of versions -/

/-- An increment at a more significant identifier leads further. -/
theorem WellFormed.precedes_of_rank_lt (h : version.WellFormed) {other : Identifier}
    {near far : Version} (more : identifier.rank < other.rank) (ok : version.next other = .ok near)
    (ok' : version.next identifier = .ok far) : near.Precedes far := by
  cases other with
  | prerelease =>
      have numeric : identifier.isNumeric = true := by
        cases identifier <;> first | rfl | contradiction
      exact (h.nextPrerelease_precedes_stableCore ok).trans (stableCore_precedes_next numeric ok')
  | metadata => contradiction
  | major => cases identifier <;> contradiction
  | minor =>
      obtain rfl := Except.ok.inj ok
      refine precedes_iff.2 (.inl (compareNumbers_eq_lt_iff.2 ?_))
      cases identifier with
      | major =>
          obtain rfl := Except.ok.inj ok'
          dsimp only
          omega
      | minor | patch | prerelease | metadata => contradiction
  | patch =>
      obtain rfl := Except.ok.inj ok
      refine precedes_iff.2 (.inl (compareNumbers_eq_lt_iff.2 ?_))
      cases identifier with
      | major | minor =>
          obtain rfl := Except.ok.inj ok'
          dsimp only [stableCore]
          omega
      | patch | prerelease | metadata => contradiction

/-- Increments of numbers keep the order of versions. -/
theorem AtMost.increment {a' b' : Version} (h : a.AtMost b) (numeric : identifier.isNumeric = true)
    (ok : a.next identifier = .ok a') (ok' : b.next identifier = .ok b') : a'.AtMost b' := by
  have numbers := isLE_compareNumbers_iff.1 h.isLE_compareNumbers
  cases identifier with
  | prerelease | metadata => contradiction
  | major | minor | patch =>
      obtain rfl := Except.ok.inj ok
      obtain rfl := Except.ok.inj ok'
      refine ⟨_, precedence_of_isStable rfl rfl, isLE_compareNumbers_iff.2 ?_⟩
      dsimp only [stableCore]
      omega

lemma exists_next_of_isNumeric (version : Version) (identifier : Identifier)
    (numeric : identifier.isNumeric = true) : ∃ next, version.next identifier = .ok next := by
  cases identifier with
  | major | minor | patch => exact ⟨_, rfl⟩
  | prerelease | metadata => contradiction

end Version

/-- **Incrementing a component is replacing it with its successor.**  When a well-formed version is incremented
at an identifier, then replacing the component at this identifier by the one that the incremented version holds
gives the incremented version, as soon as the numbers of that version keep to the digit limit.  Beyond the limit
there is no replacement at all. -/
theorem replace_agrees_with_next (version next : Version) (identifier : Identifier)
    (wellFormed : version.WellFormed) (ok : version.next identifier = .ok next) :
    version.replace identifier (next.get identifier).toValue = .ok next ↔ next.Writable := by
  constructor
  · intro replaced
    obtain ⟨text, read⟩ := exists_parse_of_replace replaced
    exact (Version.text_eq_ok_iff.1 (parse_eq_ok_iff.1 read).2).1
  · intro writable
    have same := Version.version_replacement_next ok
    have next_wellFormed := wellFormed.next ok
    have suits : identifier.Suits (next.get identifier).toValue :=
      Identifier.suits_of_admits (Version.wellFormed_iff_get.1 next_wellFormed identifier)
    rw [← same] at writable next_wellFormed
    rw [replace_eq_build suits, Draft.build_of_wellFormed writable next_wellFormed, same]

/-- A pre-release whose last number gets a second digit, a number that resets a pre-release and metadata, and
the greatest number within the digit limit, which can be incremented but not replaced. -/
theorem replace_of_next_at_limit :
    Version.WellFormed ⟨1, 0, 0, "rc.9", "a"⟩ ∧
    Version.next ⟨1, 0, 0, "rc.9", "a"⟩ .prerelease = .ok ⟨1, 0, 0, "rc.10", ""⟩ ∧
    Version.replace ⟨1, 0, 0, "rc.9", "a"⟩ .prerelease (.text "rc.10") = .ok ⟨1, 0, 0, "rc.10", ""⟩ ∧
    Version.replace ⟨1, 0, 0, "rc.9", "a"⟩ .minor (.int 1) = .ok ⟨1, 1, 0, "", ""⟩ ∧
    Version.WellFormed ⟨(10 ^ digitLimit - 1 : Nat), 2, 0, "", ""⟩ ∧
    Version.replace ⟨(10 ^ digitLimit - 1 : Nat), 2, 0, "", ""⟩ .major
      (.int ((10 ^ digitLimit - 1 : Nat) + 1)) ≠ .ok ⟨(10 ^ digitLimit - 1 : Nat) + 1, 0, 0, "", ""⟩ := by
  have wellFormed : Version.WellFormed ⟨1, 0, 0, "rc.9", "a"⟩ := by decide +kernel
  have prerelease : Version.next ⟨1, 0, 0, "rc.9", "a"⟩ .prerelease = .ok ⟨1, 0, 0, "rc.10", ""⟩ := by
    rfl
  have minor : Version.next ⟨1, 0, 0, "rc.9", "a"⟩ .minor = .ok ⟨1, 1, 0, "", ""⟩ := rfl
  have greatest : Version.WellFormed ⟨(10 ^ digitLimit - 1 : Nat), 2, 0, "", ""⟩ :=
    ⟨Int.natCast_nonneg _, by decide, le_rfl, .inl rfl, .inl rfl⟩
  have beyond : ¬ Version.Writable ⟨(10 ^ digitLimit - 1 : Nat) + 1, 0, 0, "", ""⟩ := by
    intro writable
    have within : IsWritable ((10 ^ digitLimit - 1 : Nat) + 1) := writable.major
    exact absurd within (by decide +kernel)
  refine ⟨wellFormed, prerelease, ?_, ?_, greatest, ?_⟩
  · exact (replace_agrees_with_next _ _ _ wellFormed prerelease).2
      (Version.writable_of_lt_ten (by decide) (by decide) (by decide))
  · exact (replace_agrees_with_next _ _ _ wellFormed minor).2
      (Version.writable_of_lt_ten (by decide) (by decide) (by decide))
  · exact mt (replace_agrees_with_next _ _ .major greatest rfl).1 beyond

/-- **Increments respect significance and order.**  Incrementing a number keeps the order by precedence, ties
included.  Behind a version come the stable version of its numbers, the next patch, the next minor and the next
major version, in this order, and no stable version comes in between the first two.  A pre-release is followed
by the next pre-release first, if its numbers leave room for one more. -/
theorem increments_respect_order :
    (∀ a b : Version, a.AtMost b → ∀ identifier : Identifier, identifier.isNumeric = true →
      ∃ a' b', a.next identifier = .ok a' ∧ b.next identifier = .ok b' ∧ a'.AtMost b') ∧
    ∀ version : Version, version.WellFormed → ∃ patch minor major,
      version.next .patch = .ok patch ∧ version.next .minor = .ok minor ∧
      version.next .major = .ok major ∧
      version.AtMost version.stableCore ∧
      [version.stableCore, patch, minor, major].Pairwise Version.Precedes ∧
      (∀ between : Version, between.isStable = true →
        ¬ (version.stableCore.Precedes between ∧ between.Precedes patch)) ∧
      (version.isStable = false → version.FieldsBelow (10 ^ digitLimit - 1) →
        ∃ next, version.next .prerelease = .ok next ∧
          [next, version.stableCore, patch, minor, major].Pairwise Version.Precedes) := by
  constructor
  · intro a b h identifier numeric
    obtain ⟨a', ok⟩ := a.exists_next_of_isNumeric identifier numeric
    obtain ⟨b', ok'⟩ := b.exists_next_of_isNumeric identifier numeric
    exact ⟨a', b', ok, ok', h.increment numeric ok ok'⟩
  · intro version wellFormed
    obtain ⟨patch, ok_patch⟩ := version.exists_next_of_isNumeric .patch rfl
    obtain ⟨minor, ok_minor⟩ := version.exists_next_of_isNumeric .minor rfl
    obtain ⟨major, ok_major⟩ := version.exists_next_of_isNumeric .major rfl
    have numbers : [version.stableCore, patch, minor, major].IsChain Version.Precedes :=
      .cons_cons (Version.stableCore_precedes_next rfl ok_patch) <|
        .cons_cons (wellFormed.precedes_of_rank_lt (by decide) ok_patch ok_minor) <|
          .cons_cons (wellFormed.precedes_of_rank_lt (by decide) ok_minor ok_major) (.singleton _)
    refine ⟨patch, minor, major, ok_patch, ok_minor, ok_major, Version.atMost_stableCore,
      List.isChain_iff_pairwise.1 numbers, ?_, ?_⟩
    · intro between
      exact Version.not_between_stableCore_and_patch ok_patch
    · intro unstable below
      obtain ⟨next, ok⟩ := below.exists_nextPrerelease wellFormed unstable
      have lower := wellFormed.nextPrerelease_precedes_stableCore ok
      exact ⟨next, ok, List.isChain_iff_pairwise.1 (.cons_cons lower numbers)⟩

/-- Two pre-releases that are in order.  So are the next patches after them, which tie, but not the pre-releases
after them. -/
theorem order_of_next_prereleases :
    Version.AtMost ⟨1, 0, 0, "1", "a"⟩ ⟨1, 0, 0, "1.0", ""⟩ ∧
    (∃ a' b', Version.next ⟨1, 0, 0, "1", "a"⟩ .patch = .ok a' ∧
      Version.next ⟨1, 0, 0, "1.0", ""⟩ .patch = .ok b' ∧ a'.AtMost b') ∧
    (Version.next ⟨1, 0, 0, "1", "a"⟩ .prerelease = .ok ⟨1, 0, 0, "2", ""⟩ ∧
      Version.next ⟨1, 0, 0, "1.0", ""⟩ .prerelease = .ok ⟨1, 0, 0, "1.1", ""⟩ ∧
      Version.Precedes ⟨1, 0, 0, "1.1", ""⟩ ⟨1, 0, 0, "2", ""⟩) ∧
    Version.WellFormed ⟨1, 0, 0, "1", "a"⟩ ∧
    Version.FieldsBelow ⟨1, 0, 0, "1", "a"⟩ (10 ^ digitLimit - 1) ∧
    [⟨1, 0, 0, "2", ""⟩, ⟨1, 0, 0, "", ""⟩, ⟨1, 0, 1, "", ""⟩, ⟨1, 1, 0, "", ""⟩,
      ⟨2, 0, 0, "", ""⟩].Pairwise Version.Precedes := by
  have order : Version.AtMost ⟨1, 0, 0, "1", "a"⟩ ⟨1, 0, 0, "1.0", ""⟩ := ⟨.lt, by rfl, rfl⟩
  have after : Version.next ⟨1, 0, 0, "1", "a"⟩ .prerelease = .ok ⟨1, 0, 0, "2", ""⟩ := by rfl
  have after' : Version.next ⟨1, 0, 0, "1.0", ""⟩ .prerelease = .ok ⟨1, 0, 0, "1.1", ""⟩ := by rfl
  have wellFormed : Version.WellFormed ⟨1, 0, 0, "1", "a"⟩ := by decide +kernel
  have below : Version.FieldsBelow ⟨1, 0, 0, "1", "a"⟩ (10 ^ digitLimit - 1) := by decide +kernel
  obtain ⟨monotone, rises⟩ := increments_respect_order
  obtain ⟨patch, minor, major, ok_patch, ok_minor, ok_major, -, -, -, higher⟩ := rises _ wellFormed
  obtain rfl := Except.ok.inj ok_patch
  obtain rfl := Except.ok.inj ok_minor
  obtain rfl := Except.ok.inj ok_major
  obtain ⟨next, ok, pairwise⟩ := higher rfl below
  obtain rfl := Except.ok.inj (after.symm.trans ok)
  exact ⟨order, monotone _ _ order .patch rfl, ⟨after, after', by rfl⟩, wellFormed, below, pairwise⟩

end SemanticVersion
