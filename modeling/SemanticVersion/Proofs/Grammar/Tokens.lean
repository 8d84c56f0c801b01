import SemanticVersion.Proofs.Grammar.Language
import SemanticVersion.Version

/-!
# The tokens of a dotted list

A pre-release is a list of tokens joined by dots, and no token holds a dot.  So the tokens are found
again by splitting at the dots, and whether a text is a pre-release is a question about each of its
tokens.  That question can be decided, and so can well-formedness of a version.

* `isDotted_iff_splitOn` — a dotted list in terms of what stands between its dots.
* `isPrerelease_iff_splitFields` — the same for the tokens of a text, the empty text included.
* the instances that decide the languages and `Version.WellFormed`.
-/

namespace SemanticVersion

lemma IsToken.dot_notMem {token : List Char} (h : IsToken token) : '.' ∉ token := by
  intro dot
  exact absurd (h.2 '.' dot) (by decide)

theorem isDotted_iff_splitOn {language : List Char → Prop}
    (dotless : ∀ token, language token → '.' ∉ token) {cs : List Char} :
    IsDotted language cs ↔ ∀ token ∈ cs.splitOn '.', language token := by
  constructor
  · rintro ⟨tokens, nonempty, members, rfl⟩
    rw [List.splitOn_intercalate '.' (fun token h => dotless token (members token h)) nonempty]
    exact members
  · intro members
    exact ⟨cs.splitOn '.', List.splitOn_ne_nil _ _, members, (List.intercalate_splitOn '.').symm⟩

lemma isPrerelease_iff_splitOn {cs : List Char} :
    IsPrerelease cs ↔ ∀ token ∈ cs.splitOn '.', IsPrereleaseToken token :=
  isDotted_iff_splitOn fun _ h => h.1.dot_notMem

lemma isMetadata_iff_splitOn {cs : List Char} :
    IsMetadata cs ↔ ∀ token ∈ cs.splitOn '.', IsToken token :=
  isDotted_iff_splitOn fun _ h => h.dot_notMem

/-- The empty text has no tokens, so it needs no case of its own. -/
theorem isPrerelease_iff_splitFields {text : String} :
    (text = "" ∨ IsPrerelease text.toList) ↔
      ∀ token ∈ splitFields text, IsPrereleaseToken token.toList := by
  by_cases empty : text = ""
  · subst empty
    simp [splitFields]
  · simp [splitFields, empty, isPrerelease_iff_splitOn]

/-! ## Deciding the languages -/

instance : DecidablePred IsNumber :=
  fun cs => inferInstanceAs (Decidable (isNumeral cs = true ∧ isPadded cs = false))

-- over the characters of the list, and not over all characters
instance : DecidablePred IsToken :=
  fun cs => decidable_of_iff (cs ≠ [] ∧ cs.all isTokenChar = true) (by rw [IsToken, List.all_eq_true])

instance : DecidablePred IsPrereleaseToken :=
  fun cs => inferInstanceAs (Decidable (IsToken cs ∧ isPadded cs = false))

instance : DecidablePred IsPrerelease :=
  fun _ => decidable_of_iff _ isPrerelease_iff_splitOn.symm

instance : DecidablePred IsMetadata :=
  fun _ => decidable_of_iff _ isMetadata_iff_splitOn.symm

instance (version : Version) : Decidable version.WellFormed :=
  decidable_of_iff
    (0 ≤ version.major ∧ 0 ≤ version.minor ∧ 0 ≤ version.patch ∧
      (version.prerelease = "" ∨ IsPrerelease version.prerelease.toList) ∧
      (version.metadata = "" ∨ IsMetadata version.metadata.toList))
    ⟨fun ⟨major, minor, patch, prerelease, metadata⟩ =>
      ⟨major, minor, patch, prerelease, metadata⟩,
      fun h => ⟨h.major, h.minor, h.patch, h.prerelease, h.metadata⟩⟩

example : Version.WellFormed ⟨1, 0, 10, "rc.1", "build-5"⟩ := by decide +kernel

example : ¬ Version.WellFormed ⟨1, 0, 10, "rc.01", ""⟩ := by decide +kernel

end SemanticVersion
