import Mathlib.Data.List.Perm.Basic
import SemanticVersion.Proofs.Version.RoundTrip
import SemanticVersion.Version.Sort

/-!
# What a sorted list consists of

Sorting computes a key for each version, puts the versions with their keys in order and drops the keys.
It loses no version and makes up none.  The texts of the sorted versions are therefore the texts that
the versions were read from, in another order.

* `map_version_of_keyed` — dropping the keys gives back the versions.
* `perm_of_sortVersions` — a sorted list is a permutation of the list.
* `exists_mapM_of_perm` — what can be done with a list can be done with its permutations.
* `exists_versionTexts_of_sorted` — sorted versions are printed as the texts that they were read from.
-/

namespace SemanticVersion

lemma map_version_of_keyed {mode : SortMode} {versions : List Version} {entries : List Keyed}
    (computed : keyed mode versions = .ok entries) : entries.map Keyed.version = versions := by
  have pointwise := mapM_eq_ok_iff.1 computed
  clear computed
  induction pointwise with
  | nil => rfl
  | cons head tail ih =>
      obtain ⟨key, -, made⟩ := bind_eq_ok_iff.1 head
      obtain rfl := Except.ok.inj made
      rw [List.map_cons, ih]

/-- A sorted list is a permutation of the list, in either mode and direction. -/
theorem perm_of_sortVersions {mode : SortMode} {reverse : Bool} {versions sorted : List Version}
    (ok : sortVersions mode reverse versions = .ok sorted) : sorted.Perm versions := by
  obtain ⟨entries, computed, made⟩ := bind_eq_ok_iff.1 ok
  obtain rfl := Except.ok.inj made
  have ordered := (List.mergeSort_perm entries (Keyed.precedes reverse)).map Keyed.version
  rwa [map_version_of_keyed computed] at ordered

/-- An operation that succeeds for each item of a list does so in any other order, with the results in
that order. -/
theorem exists_mapM_of_perm {ε α β : Type} {f : α → Except ε β} {xs xs' : List α} {ys : List β}
    (perm : xs'.Perm xs) (mapped : xs.mapM f = .ok ys) :
    ∃ ys', xs'.mapM f = .ok ys' ∧ ys'.Perm ys := by
  obtain ⟨ys', pointwise, same⟩ := List.perm_comp_forall₂ perm (mapM_eq_ok_iff.1 mapped)
  exact ⟨ys', mapM_eq_ok_iff.2 pointwise, same⟩

/-- What is read from texts is printed as these texts. -/
lemma mapM_text_of_parse {texts : List String} {versions : List Version}
    (read : texts.mapM Version.parse = .ok versions) : versions.mapM Version.text = .ok texts := by
  rw [mapM_eq_ok_iff] at read ⊢
  refine read.flip.imp fun version text parsed => ?_
  exact (parse_eq_ok_iff.1 parsed).2

/-- **Sorted versions are printed as the texts that they were read from,** in another order.  None of
them is too long to be written. -/
theorem exists_versionTexts_of_sorted {mode : SortMode} {reverse : Bool} {texts : List String}
    {versions sorted : List Version} (read : texts.mapM Version.parse = .ok versions)
    (ok : sortVersions mode reverse versions = .ok sorted) :
    ∃ lines, versionTexts sorted = .ok lines ∧ lines.Perm texts :=
  exists_mapM_of_perm (perm_of_sortVersions ok) (mapM_text_of_parse read)

end SemanticVersion
