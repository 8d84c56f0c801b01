import Mathlib.Data.Set.List
import SemanticVersion.Proofs.StableSort
import SemanticVersion.Proofs.Version.Keys
import SemanticVersion.Proofs.Version.Sorting

/-!
# In which order versions are sorted

Versions are sorted by keys, and keys in general have no order.  The keys of versions do: they are
ordered like the ranks of the versions, by a comparison that obeys every law.  So a list of versions
that have keys is sorted like a list of ranked versions, and what holds of stable sorting holds of it.

Reversing the direction **is not reversing the list**, because versions with equal keys stay in the order
in which they came.  Only in the strict order of well-formed versions the two are the same, since there
equal keys belong to equal versions.  For the same reason the outcome does not depend on the order of the
list then.

* `SortMode.Allows` — whether a version may stand in front of another in a sorted list.
* `Ranked` — a version that has a rank, with the comparison by mode and direction.
* `sortVersions_map_version` — sorting versions is sorting ranked versions.
* `eq_of_pairwise_strict` — well-formed versions are in the strict order in one way only.
* `sorting_is_stable` — all four modes, and what is special about well-formed versions.
-/

namespace SemanticVersion

/-! ## Modes and directions -/

namespace SortMode

/-- The order of versions that a mode sorts by. -/
def order : SortMode → Version → Version → Except DigitLimit Ordering
  | .strict => Version.strictOrder
  | .precedence => Version.precedence

/-- Whether the first version may stand in front of the second when versions are sorted. -/
def Allows (mode : SortMode) (reverse : Bool) (a b : Version) : Prop :=
  ∃ order, mode.order a b = .ok order ∧ if reverse then order.isGE else order.isLE

/-- The order of ranks that a mode sorts by. -/
def compareRanks : SortMode → Rank → Rank → Ordering
  | .strict => Rank.compare
  | .precedence => fun x y => x.standing.compare y.standing

/-- The key for a rank in a mode. -/
def rankKey : SortMode → Rank → SortKey
  | .strict => Rank.key
  | .precedence => fun x => x.standing.key

instance (mode : SortMode) : Std.TransCmp mode.compareRanks := by
  cases mode with
  | strict => exact inferInstanceAs (Std.TransCmp Rank.compare)
  | precedence => exact inferInstanceAs (Std.TransCmp fun x y : Rank => x.standing.compare y.standing)

/-- What the strict order allows, precedence allows too. -/
lemma isLE_precedence {x y : Rank} (le : (strict.compareRanks x y).isLE) :
    (precedence.compareRanks x y).isLE :=
  Ordering.isLE_left_of_isLE_then le

end SortMode

namespace Version

variable {a b : Version}

/-- The versions that have keys are the versions that have ranks, in either mode. -/
theorem exists_key_iff_exists_rank {mode : SortMode} :
    (∃ key, mode.key a = .ok key) ↔ ∃ x, a.HasRank x := by
  cases mode with
  | strict =>
      constructor
      · rintro ⟨key, computed⟩
        obtain ⟨x, has, -⟩ := strictKey_eq_ok_iff.1 computed
        exact ⟨x, has⟩
      · rintro ⟨x, has⟩
        exact ⟨_, strictKey_eq_ok_iff.2 ⟨x, has, rfl⟩⟩
  | precedence =>
      constructor
      · rintro ⟨key, computed⟩
        obtain ⟨x, has, -⟩ := precedenceKey_eq_ok_iff.1 computed
        exact ⟨⟨x, a.metadata⟩, has, rfl⟩
      · rintro ⟨x, has⟩
        exact ⟨_, precedenceKey_eq_ok_iff.2 ⟨x.standing, has.standing, rfl⟩⟩

/-- Fields within the digit limit are enough for a key. -/
lemma FieldsReadable.exists_key (h : a.FieldsReadable) (mode : SortMode) :
    ∃ key, mode.key a = .ok key :=
  exists_key_iff_exists_rank.2 h.exists_rank

namespace HasRank

variable {x y : Rank} (h : a.HasRank x) (h' : b.HasRank y)

include h in
lemma key_eq (mode : SortMode) : mode.key a = .ok (mode.rankKey x) := by
  cases mode with
  | strict => exact strictKey_eq_ok_iff.2 ⟨x, h, rfl⟩
  | precedence => exact precedenceKey_eq_ok_iff.2 ⟨x.standing, h.standing, rfl⟩

include h h'

lemma order_eq (mode : SortMode) : mode.order a b = .ok (mode.compareRanks x y) := by
  cases mode with
  | strict => exact h.strictOrder_eq_compare h'
  | precedence => exact h.standing.precedence_eq_compare h'.standing

lemma compare?_rankKey (mode : SortMode) :
    (mode.rankKey x).compare? (mode.rankKey y) = some (mode.compareRanks x y) := by
  cases mode with
  | strict => exact h.compare?_key h'
  | precedence => exact h.standing.compare?_key h'.standing

lemma precedes_rankKey (mode : SortMode) :
    (mode.rankKey x).precedes (mode.rankKey y) = (mode.compareRanks x y).isLE := by
  rw [SortKey.precedes, h.compare?_rankKey h' mode]
  cases mode.compareRanks x y <;> rfl

/-- Versions with equal keys tie. -/
lemma compareRanks_eq_eq {mode : SortMode} (same : mode.key a = mode.key b) :
    mode.compareRanks x y = .eq := by
  have keys := h.compare?_rankKey h' mode
  have key : mode.rankKey x = mode.rankKey y :=
    Except.ok.inj ((h.key_eq mode).symm.trans (same.trans (h'.key_eq mode)))
  rw [← key, h.compare?_rankKey h mode, @Std.ReflCmp.compare_self _ mode.compareRanks] at keys
  exact (Option.some.inj keys).symm

end HasRank

end Version

/-! ## Ranked versions -/

/-- A version that has a rank. -/
structure Ranked where
  version : Version
  rank : Rank
  has : version.HasRank rank

namespace Ranked

variable {mode : SortMode} {reverse : Bool} {a b : Ranked}

/-- The comparison of ranked versions in a mode and a direction. -/
protected def compare (mode : SortMode) (reverse : Bool) (a b : Ranked) : Ordering :=
  if reverse then mode.compareRanks b.rank a.rank else mode.compareRanks a.rank b.rank

instance (mode : SortMode) (reverse : Bool) : Std.TransCmp (Ranked.compare mode reverse) := by
  have ascending : Std.TransCmp fun a b : Ranked => mode.compareRanks a.rank b.rank :=
    { eq_swap := Std.OrientedCmp.eq_swap, isLE_trans := Std.TransCmp.isLE_trans }
  cases reverse with
  | false => exact ascending
  | true => exact (Std.TransCmp.opposite :
      Std.TransCmp fun a b : Ranked => mode.compareRanks b.rank a.rank)

/-- A ranked version may stand in front of another when the comparison says so. -/
lemma allows_iff :
    mode.Allows reverse a.version b.version ↔ (Ranked.compare mode reverse a b).isLE := by
  rw [SortMode.Allows, Ranked.compare, a.has.order_eq b.has]
  simp only [Except.ok.injEq, exists_eq_left']
  cases reverse with
  | false => rfl
  | true => exact iff_of_eq (congrArg (· = true) Std.OrientedCmp.isGE_eq_isLE)

lemma compare_eq_eq_iff :
    Ranked.compare mode reverse a b = .eq ↔ mode.compareRanks a.rank b.rank = .eq := by
  cases reverse with
  | false => rfl
  | true => exact Std.OrientedCmp.eq_comm

/-- What the strict order allows, precedence allows too. -/
lemma isLE_compare_precedence (le : (Ranked.compare .strict reverse a b).isLE) :
    (Ranked.compare .precedence reverse a b).isLE := by
  cases reverse with
  | false => exact SortMode.isLE_precedence le
  | true => exact SortMode.isLE_precedence le

/-- Well-formed versions that tie in the strict order are the same. -/
lemma eq_of_compare_strict (wellFormed : a.version.WellFormed) (wellFormed' : b.version.WellFormed)
    (tie : Ranked.compare .strict reverse a b = .eq) : a.version = b.version := by
  have tie : a.rank.compare b.rank = .eq := compare_eq_eq_iff.1 tie
  exact (a.has.eq_iff b.has wellFormed wellFormed').1 (Std.LawfulEqCmp.eq_of_compare tie)

/-! ## Sorting ranked versions -/

/-- The entry for a ranked version in a mode. -/
def keyed (mode : SortMode) (a : Ranked) : Keyed where
  key := mode.rankKey a.rank
  version := a.version

end Ranked

lemma keyed_map_version (mode : SortMode) (entries : List Ranked) :
    keyed mode (entries.map Ranked.version) = .ok (entries.map (Ranked.keyed mode)) := by
  rw [keyed, mapM_eq_ok_iff, List.forall₂_map_left_iff, List.forall₂_map_right_iff,
    List.forall₂_same]
  intro a _
  rw [Version.keyed, a.has.key_eq mode]
  rfl

/-- Sorting versions is sorting ranked versions. -/
theorem sortVersions_map_version (mode : SortMode) (reverse : Bool) (entries : List Ranked) :
    sortVersions mode reverse (entries.map Ranked.version) =
      .ok ((sortBy (Ranked.compare mode reverse) entries).map Ranked.version) := by
  have keys : ∀ a ∈ entries, ∀ b ∈ entries, (Ranked.compare mode reverse a b).isLE =
      Keyed.precedes reverse (a.keyed mode) (b.keyed mode) := by
    intro a _ b _
    cases reverse with
    | false => exact (a.has.precedes_rankKey b.has mode).symm
    | true => exact (b.has.precedes_rankKey a.has mode).symm
  rw [sortVersions, keyed_map_version, ok_bind, inOrder, sortBy, ← List.map_mergeSort keys,
    List.map_map]
  rfl

/-- Versions that have keys are ranked. -/
lemma exists_ranked {mode : SortMode} {versions : List Version}
    (keys : ∀ version ∈ versions, ∃ key, mode.key version = .ok key) :
    ∃ entries : List Ranked, entries.map Ranked.version = versions := by
  have ranked : versions ∈ Set.range (List.map Ranked.version) := by
    rw [Set.range_list_map]
    intro version mem
    obtain ⟨rank, has⟩ := Version.exists_key_iff_exists_rank.1 (keys version mem)
    exact ⟨⟨version, rank, has⟩, rfl⟩
  exact ranked

lemma exists_ranked_of_perm {mode : SortMode} {versions other : List Version}
    (keys : ∀ version ∈ versions, ∃ key, mode.key version = .ok key) (perm : other.Perm versions) :
    ∃ entries : List Ranked, entries.map Ranked.version = other := by
  have keys' : ∀ version ∈ other, ∃ key, mode.key version = .ok key := by
    intro version mem
    exact keys version (perm.mem_iff.1 mem)
  exact exists_ranked keys'

/-! ## The sorted list -/

section Sorted

variable {mode : SortMode} {reverse : Bool} {entries : List Ranked}

/-- In a sorted list every version may stand in front of all that follow. -/
theorem pairwise_allows_sortBy :
    ((sortBy (Ranked.compare mode reverse) entries).map Ranked.version).Pairwise
      (mode.Allows reverse) :=
  List.pairwise_map.2 ((pairwise_sortBy entries).imp Ranked.allows_iff.2)

/-- Versions with equal keys stay in the order in which they came. -/
theorem filter_version_sortBy {selected : Version → Bool}
    (tied : ∀ a ∈ entries.map Ranked.version, ∀ b ∈ entries.map Ranked.version,
      selected a → selected b → mode.key a = mode.key b) :
    ((sortBy (Ranked.compare mode reverse) entries).map Ranked.version).filter selected =
      (entries.map Ranked.version).filter selected := by
  rw [List.filter_map, List.filter_map, filter_sortBy]
  intro a ha b hb chosen chosen'
  have same := tied _ (List.mem_map_of_mem ha) _ (List.mem_map_of_mem hb) chosen chosen'
  exact Ranked.compare_eq_eq_iff.2 (a.has.compareRanks_eq_eq b.has same)

/-- A list in strict order is in the order by precedence as well. -/
lemma sortBy_precedence_sortBy_strict :
    sortBy (Ranked.compare .precedence reverse) (sortBy (Ranked.compare .strict reverse) entries) =
      sortBy (Ranked.compare .strict reverse) entries :=
  sortBy_eq_self ((pairwise_sortBy entries).imp Ranked.isLE_compare_precedence)

end Sorted

/-! ## Well-formed versions in strict order -/

section WellFormed

variable {reverse : Bool} {entries others : List Ranked}

/-- **Well-formed versions are in the strict order in one way only.** -/
theorem eq_of_pairwise_strict (wellFormed : ∀ a ∈ entries, a.version.WellFormed)
    (perm : (entries.map Ranked.version).Perm (others.map Ranked.version))
    (ordered : entries.Pairwise fun a b => (Ranked.compare .strict reverse a b).isLE)
    (ordered' : others.Pairwise fun a b => (Ranked.compare .strict reverse a b).isLE) :
    entries.map Ranked.version = others.map Ranked.version := by
  have allowed : ∀ {entries : List Ranked},
      (entries.Pairwise fun a b => (Ranked.compare .strict reverse a b).isLE) →
      (entries.map Ranked.version).Pairwise (SortMode.strict.Allows reverse) := by
    intro entries ordered
    exact List.pairwise_map.2 (ordered.imp Ranked.allows_iff.2)
  refine perm.eq_of_pairwise ?_ (allowed ordered) (allowed ordered')
  intro version version' mem mem' le ge
  have mem'' := perm.mem_iff.2 mem'
  obtain ⟨a, ha, rfl⟩ := List.mem_map.1 mem
  obtain ⟨b, hb, rfl⟩ := List.mem_map.1 mem'
  obtain ⟨c, hc, same⟩ := List.mem_map.1 mem''
  have wellFormed' : b.version.WellFormed := same ▸ wellFormed c hc
  exact Ranked.eq_of_compare_strict (wellFormed a ha) wellFormed'
    (Std.OrientedCmp.isLE_antisymm (Ranked.allows_iff.1 le) (Ranked.allows_iff.1 ge))

/-- The strict order of well-formed versions does not depend on how they are listed. -/
lemma map_version_sortBy_perm (wellFormed : ∀ a ∈ entries, a.version.WellFormed)
    (perm : (others.map Ranked.version).Perm (entries.map Ranked.version)) :
    (sortBy (Ranked.compare .strict reverse) others).map Ranked.version =
      (sortBy (Ranked.compare .strict reverse) entries).map Ranked.version := by
  refine (eq_of_pairwise_strict ?_ ?_ (pairwise_sortBy entries) (pairwise_sortBy others)).symm
  · intro a ha
    exact wellFormed a ((perm_sortBy entries).mem_iff.1 ha)
  · exact ((perm_sortBy entries).map _).trans (perm.symm.trans ((perm_sortBy others).map _).symm)

/-- The descending strict order of well-formed versions is the ascending one from behind. -/
lemma map_version_sortBy_reverse (wellFormed : ∀ a ∈ entries, a.version.WellFormed) :
    (sortBy (Ranked.compare .strict true) entries).map Ranked.version =
      ((sortBy (Ranked.compare .strict false) entries).map Ranked.version).reverse := by
  have same : (sortBy (Ranked.compare .strict true) entries).Perm
      (sortBy (Ranked.compare .strict false) entries) :=
    (perm_sortBy entries).trans (perm_sortBy entries).symm
  rw [← List.map_reverse]
  refine eq_of_pairwise_strict ?_ ((same.trans (List.reverse_perm _).symm).map _)
    (pairwise_sortBy entries) (List.pairwise_reverse.2 (pairwise_sortBy entries))
  intro a ha
  exact wellFormed a ((perm_sortBy entries).mem_iff.1 ha)

end WellFormed

/-- **Versions are sorted stably, in either mode and direction.**  When the versions of a list have keys,
the list is sorted to a permutation of itself.  Every version in it may stand in front of all that follow,
and versions with equal keys keep the order in which they came, also when the list is reversed.  Well-formed
versions have one strict order: it is the same for every permutation of the list, the descending one is
the ascending one from behind, and sorting by precedence afterwards changes nothing. -/
theorem sorting_is_stable (versions : List Version) :
    (∀ (mode : SortMode) (reverse : Bool),
      (∀ version ∈ versions, ∃ key, mode.key version = .ok key) →
      ∃ sorted, sortVersions mode reverse versions = .ok sorted ∧ sorted.Perm versions ∧
        sorted.Pairwise (mode.Allows reverse) ∧
        ∀ selected : Version → Bool,
          (∀ a ∈ versions, ∀ b ∈ versions, selected a → selected b → mode.key a = mode.key b) →
          sorted.filter selected = versions.filter selected) ∧
    ((∀ version ∈ versions, ∃ key, version.strictKey = .ok key) →
      (∀ version ∈ versions, version.WellFormed) →
      ∃ sorted, sortVersions .strict false versions = .ok sorted ∧
        sortVersions .strict true versions = .ok sorted.reverse ∧
        (∀ other : List Version, other.Perm versions →
          sortVersions .strict false other = .ok sorted ∧
            sortVersions .strict true other = .ok sorted.reverse) ∧
        sortVersions .precedence false sorted = .ok sorted ∧
        sortVersions .precedence true sorted.reverse = .ok sorted.reverse) := by
  constructor
  · intro mode reverse keys
    obtain ⟨entries, rfl⟩ := exists_ranked keys
    have sorted := sortVersions_map_version mode reverse entries
    exact ⟨_, sorted, perm_of_sortVersions sorted, pairwise_allows_sortBy,
      fun _ => filter_version_sortBy⟩
  · intro keys wellFormed
    have keys : ∀ version ∈ versions, ∃ key, SortMode.strict.key version = .ok key := keys
    obtain ⟨entries, rfl⟩ := exists_ranked keys
    rw [List.forall_mem_map] at wellFormed
    have reversed := map_version_sortBy_reverse wellFormed
    refine ⟨_, sortVersions_map_version .strict false entries, ?_, ?_, ?_, ?_⟩
    · rw [sortVersions_map_version, reversed]
    · intro other perm
      obtain ⟨others, rfl⟩ := exists_ranked_of_perm keys perm
      rw [sortVersions_map_version, sortVersions_map_version, map_version_sortBy_perm wellFormed perm,
        map_version_sortBy_perm wellFormed perm, reversed]
      exact ⟨rfl, rfl⟩
    · rw [sortVersions_map_version, sortBy_precedence_sortBy_strict]
    · rw [← reversed, sortVersions_map_version, sortBy_precedence_sortBy_strict]

/-- Two versions of equal precedence around a pre-release. -/
def metadataVariants : List Version :=
  [⟨1, 0, 0, "", "b"⟩, ⟨1, 0, 0, "rc.10", ""⟩, ⟨1, 0, 0, "", "a"⟩]

/-- In descending order by precedence the two stable versions keep their places among themselves, while
the strict order puts them in the order of their metadata. -/
theorem sorting_of_metadataVariants :
    (∀ mode : SortMode, ∀ version ∈ metadataVariants, ∃ key, mode.key version = .ok key) ∧
    (∀ version ∈ metadataVariants, version.WellFormed) ∧
    (∃ sorted, sortVersions .precedence true metadataVariants = .ok sorted ∧
      sorted.Perm metadataVariants ∧ sorted.Pairwise (SortMode.precedence.Allows true) ∧
      sorted.filter Version.isStable = [⟨1, 0, 0, "", "b"⟩, ⟨1, 0, 0, "", "a"⟩]) ∧
    ∃ sorted, sortVersions .strict false metadataVariants = .ok sorted ∧
      sortVersions .strict true metadataVariants = .ok sorted.reverse ∧
      sortVersions .strict false metadataVariants.reverse = .ok sorted ∧
      sortVersions .precedence false sorted = .ok sorted := by
  have readable : ∀ version ∈ metadataVariants, version.FieldsReadable := by decide +kernel
  have keys : ∀ mode : SortMode, ∀ version ∈ metadataVariants, ∃ key, mode.key version = .ok key := by
    intro mode version mem
    exact (readable version mem).exists_key mode
  have wellFormed : ∀ version ∈ metadataVariants, version.WellFormed := by decide +kernel
  obtain ⟨modes, strict⟩ := sorting_is_stable metadataVariants
  obtain ⟨sorted, ok, perm, ordered, stable⟩ := modes .precedence true (keys .precedence)
  obtain ⟨ascending, ok', descending, other, again, -⟩ := strict (keys .strict) wellFormed
  refine ⟨keys, wellFormed, ⟨sorted, ok, perm, ordered, stable _ ?_⟩,
    ascending, ok', descending, (other _ (List.reverse_perm _)).1, again⟩
  -- stable versions of the same numbers have the same key
  have numbers : ∀ version ∈ metadataVariants,
      version.major = 1 ∧ version.minor = 0 ∧ version.patch = 0 := by decide
  intro a ha b hb stable stable'
  simp [SortMode.key, Version.precedenceKey, Version.prereleaseKey, stable, stable', numbers a ha,
    numbers b hb]

example : sortVersions .precedence true metadataVariants =
    .ok [⟨1, 0, 0, "", "b"⟩, ⟨1, 0, 0, "", "a"⟩, ⟨1, 0, 0, "rc.10", ""⟩] := by
  cbv

end SemanticVersion
