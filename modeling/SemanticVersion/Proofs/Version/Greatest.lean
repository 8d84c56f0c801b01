import SemanticVersion.Proofs.Version.SortOrder

/-!
# The greatest version of a list

The greatest version is found without sorting: one walk through the list keeps the first version that no
later one exceeds.  Still it is what sorting gives.  The descending strict order begins with a greatest
version, and because sorting is stable, with **the first** of the greatest ones — the same one that the walk
keeps, also when versions that are not the same have equal keys.

Among well-formed versions there is one greatest version only.  It does not depend on the order of the
list, and the ascending order ends with it.

* `IsFirstGreatest` — the first version of a list with the greatest key.
* `exists_isFirstLeast_greatestVersion` — the walk finds the first item in descending order.
* `exists_descending` — sorting puts it at the front.
* `greatest_heads_descending_order` — all of it together.
-/

namespace SemanticVersion

/-- The version is the first one in the list with the greatest key for the strict order. -/
def IsFirstGreatest (versions : List Version) (greatest : Version) : Prop :=
  ∃ before after top, versions = before ++ greatest :: after ∧ greatest.strictKey = .ok top ∧
    (∀ version ∈ before, ∃ key, version.strictKey = .ok key ∧ key.compare? top = some .lt) ∧
    ∀ version ∈ after, ∃ key order, version.strictKey = .ok key ∧
      key.compare? top = some order ∧ order.isLE

/-! ## The walk through the list -/

/-- The later of two entries is the one that comes first in descending order. -/
lemma later_keyed (a b : Ranked) :
    Keyed.later (a.keyed .strict) (b.keyed .strict) =
      (lesser (Ranked.compare .strict true) a b).keyed .strict := by
  have keys := b.has.compare?_rankKey a.has .strict
  have swapped : SortMode.strict.compareRanks b.rank a.rank =
      (SortMode.strict.compareRanks a.rank b.rank).swap := Std.OrientedCmp.eq_swap
  simp only [Keyed.later, Ranked.keyed, lesser, Ranked.compare, keys, swapped]
  cases SortMode.strict.compareRanks a.rank b.rank <;> rfl

/-- The walk through the list finds the first item in descending order. -/
theorem exists_isFirstLeast_greatestVersion {entries : List Ranked} (nonempty : entries ≠ []) :
    ∃ greatest, IsFirstLeast (Ranked.compare .strict true) entries greatest ∧
      greatestVersion (entries.map Ranked.version) = .ok greatest.version := by
  cases entries with
  | nil => contradiction
  | cons first rest =>
      refine ⟨_, isFirstLeast_foldl first rest, ?_⟩
      rw [greatestVersion, keyed_map_version, liftM_ok, ok_bind, List.map_cons, greatestOf,
        List.foldl_map, List.foldl_hom (Ranked.keyed .strict) later_keyed]
      rfl

namespace IsFirstLeast

variable {entries : List Ranked} {greatest : Ranked}
  (h : IsFirstLeast (Ranked.compare .strict true) entries greatest)
include h

lemma compareRanks_isLE {a : Ranked} (mem : a ∈ entries) :
    (SortMode.strict.compareRanks a.rank greatest.rank).isLE := by
  have bound : (SortMode.strict.compareRanks greatest.rank a.rank).isGE := h.isGE a mem
  rwa [Std.OrientedCmp.isGE_eq_isLE] at bound

/-- No version of the list comes behind it, neither in the strict order nor by precedence. -/
theorem allows {a : Ranked} (mem : a ∈ entries) (mode : SortMode) :
    mode.Allows false a.version greatest.version := by
  have le : (Ranked.compare .strict false a greatest).isLE := h.compareRanks_isLE mem
  rw [Ranked.allows_iff]
  cases mode with
  | strict => exact le
  | precedence => exact Ranked.isLE_compare_precedence le

/-- It is the first version with the greatest key. -/
theorem isFirstGreatest : IsFirstGreatest (entries.map Ranked.version) greatest.version := by
  have weak : ∀ a ∈ entries, ∃ key order, a.version.strictKey = .ok key ∧
      key.compare? (SortMode.strict.rankKey greatest.rank) = some order ∧ order.isLE := by
    intro a mem
    exact ⟨_, _, a.has.key_eq .strict, a.has.compare?_rankKey greatest.has .strict,
      h.compareRanks_isLE mem⟩
  obtain ⟨before, after, rfl, strict, -⟩ := h
  refine ⟨before.map Ranked.version, after.map Ranked.version, _, by simp,
    greatest.has.key_eq .strict, ?_, ?_⟩
  · rw [List.forall_mem_map]
    intro a mem
    have less : SortMode.strict.compareRanks a.rank greatest.rank = .lt :=
      Std.OrientedCmp.lt_of_gt (strict a mem)
    refine ⟨_, a.has.key_eq .strict, ?_⟩
    rw [a.has.compare?_rankKey greatest.has .strict, less]
  · rw [List.forall_mem_map]
    intro a mem
    exact weak a (by simp [mem])

/-- The versions in descending order begin with it. -/
theorem exists_descending :
    ∃ rest, (sortBy (Ranked.compare .strict true) entries).map Ranked.version =
      greatest.version :: rest := by
  obtain ⟨rest, sorted⟩ := List.head?_eq_some_iff.1 h.head?_sortBy
  rw [sorted, List.map_cons]
  exact ⟨_, rfl⟩

end IsFirstLeast

/-- **The greatest version is the first one in descending order.**  When the versions of a list have keys
and there is at least one, the greatest version is one of them, no version of the list is above it in the
strict order or by precedence, and it is the first of those with the greatest key.  The descending strict
order begins with it.  Among well-formed versions the ascending strict order ends with it, and it is the
same for every permutation of the list. -/
theorem greatest_heads_descending_order (versions : List Version) (nonempty : versions ≠ [])
    (keys : ∀ version ∈ versions, ∃ key, version.strictKey = .ok key) :
    ∃ greatest, greatestVersion versions = .ok greatest ∧ greatest ∈ versions ∧
      (∀ version ∈ versions, SortMode.strict.Allows false version greatest ∧
        SortMode.precedence.Allows false version greatest) ∧
      IsFirstGreatest versions greatest ∧
      (∃ rest, sortVersions .strict true versions = .ok (greatest :: rest)) ∧
      ((∀ version ∈ versions, version.WellFormed) →
        (∃ front, sortVersions .strict false versions = .ok (front ++ [greatest])) ∧
        ∀ other : List Version, other.Perm versions → greatestVersion other = .ok greatest) := by
  have keys : ∀ version ∈ versions, ∃ key, SortMode.strict.key version = .ok key := keys
  obtain ⟨entries, rfl⟩ := exists_ranked keys
  rw [ne_eq, List.map_eq_nil_iff] at nonempty
  obtain ⟨greatest, first, found⟩ := exists_isFirstLeast_greatestVersion nonempty
  obtain ⟨rest, descending⟩ := first.exists_descending
  refine ⟨greatest.version, found, List.mem_map_of_mem first.mem, ?_, first.isFirstGreatest,
    ⟨rest, ?_⟩, ?_⟩
  · rw [List.forall_mem_map]
    intro a mem
    exact ⟨first.allows mem .strict, first.allows mem .precedence⟩
  · rw [sortVersions_map_version, descending]
  · rw [List.forall_mem_map]
    intro wellFormed
    constructor
    · have reversed := map_version_sortBy_reverse wellFormed
      rw [descending, eq_comm, List.reverse_eq_cons_iff] at reversed
      refine ⟨rest.reverse, ?_⟩
      rw [sortVersions_map_version, reversed]
    · intro other perm
      obtain ⟨others, rfl⟩ := exists_ranked_of_perm keys perm
      have nonempty' : others ≠ [] := by
        rintro rfl
        exact nonempty (List.map_eq_nil_iff.1 perm.nil_eq.symm)
      obtain ⟨greatest', first', found'⟩ := exists_isFirstLeast_greatestVersion nonempty'
      obtain ⟨rest', descending'⟩ := first'.exists_descending
      have same : (sortBy (Ranked.compare .strict true) others).map Ranked.version =
          (sortBy (Ranked.compare .strict true) entries).map Ranked.version :=
        map_version_sortBy_perm wellFormed perm
      rw [descending, descending'] at same
      rw [found', (List.cons.inj same).1]

/-- Of two versions that are not the same but have equal keys the first one is found, and so it is by
sorting.  Among well-formed versions the order of the list does not matter. -/
theorem greatest_of_equal_keys :
    (∀ version ∈ [⟨1, 0, 0, "rc.0", ""⟩, ⟨1, 0, 0, "rc.01", "a"⟩, ⟨1, 0, 0, "rc.1", "a"⟩],
      ∃ key, Version.strictKey version = .ok key) ∧
    greatestVersion [⟨1, 0, 0, "rc.0", ""⟩, ⟨1, 0, 0, "rc.01", "a"⟩, ⟨1, 0, 0, "rc.1", "a"⟩] =
      .ok ⟨1, 0, 0, "rc.01", "a"⟩ ∧
    (∃ rest, sortVersions .strict true
      [⟨1, 0, 0, "rc.0", ""⟩, ⟨1, 0, 0, "rc.01", "a"⟩, ⟨1, 0, 0, "rc.1", "a"⟩] =
        .ok (⟨1, 0, 0, "rc.01", "a"⟩ :: rest)) ∧
    (∀ version ∈ metadataVariants, version.WellFormed) ∧
    (∃ front, sortVersions .strict false metadataVariants = .ok (front ++ [⟨1, 0, 0, "", "b"⟩])) ∧
    greatestVersion metadataVariants.reverse = .ok ⟨1, 0, 0, "", "b"⟩ := by
  have keys : ∀ {versions : List Version}, (∀ version ∈ versions, version.FieldsReadable) →
      ∀ version ∈ versions, ∃ key, version.strictKey = .ok key := by
    intro versions readable version mem
    exact (readable version mem).exists_key .strict
  have wellFormed : ∀ version ∈ metadataVariants, version.WellFormed := by decide +kernel
  have padded : ∀ version ∈ [⟨1, 0, 0, "rc.0", ""⟩, ⟨1, 0, 0, "rc.01", "a"⟩, ⟨1, 0, 0, "rc.1", "a"⟩],
      Version.FieldsReadable version := by decide +kernel
  have computed : (greatestVersion [⟨1, 0, 0, "rc.0", ""⟩, ⟨1, 0, 0, "rc.01", "a"⟩,
      ⟨1, 0, 0, "rc.1", "a"⟩]).toOption = some ⟨1, 0, 0, "rc.01", "a"⟩ := by decide +kernel
  obtain ⟨first, found, -, -, -, ⟨rest, descending⟩, -⟩ :=
    greatest_heads_descending_order _ (List.cons_ne_nil _ _) (keys padded)
  rw [found] at computed
  obtain rfl : first = ⟨1, 0, 0, "rc.01", "a"⟩ := Option.some.inj computed
  have computed' : (greatestVersion metadataVariants).toOption = some ⟨1, 0, 0, "", "b"⟩ := by
    decide +kernel
  obtain ⟨greatest, found', -, -, -, -, unique⟩ :=
    greatest_heads_descending_order metadataVariants (List.cons_ne_nil _ _) (keys (by decide +kernel))
  rw [found'] at computed'
  obtain rfl : greatest = ⟨1, 0, 0, "", "b"⟩ := Option.some.inj computed'
  obtain ⟨⟨front, ascending⟩, other⟩ := unique wellFormed
  exact ⟨keys padded, found, ⟨rest, descending⟩, wellFormed, ⟨front, ascending⟩,
    other _ (List.reverse_perm _)⟩

end SemanticVersion
