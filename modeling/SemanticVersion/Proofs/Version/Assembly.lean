import SemanticVersion.Proofs.Version.RoundTrip

/-!
# Texts assembled from components that may be invalid

A version that is built from components is assembled to a text first, whatever the components are.
This file says how such a text is decomposed when it happens to be a version text.

A number cannot hide anything, because neither a dot nor a mark is a digit.  A plus sign inside the
pre-release is different: it ends the pre-release early, and when no metadata follows, the text behind
it may pass for metadata.

* `SpelledBy.numbers` — in a version text no number is negative, and the optional parts come next.
* `eq_or_moved_of_marked` — the two optional parts are as well, unless a plus sign moved some text.
* `Version.Conflated`, `wellFormed_or_conflated` — the invalid versions whose text is a version text.
-/

namespace SemanticVersion

/-! ## The numbers -/

lemma toList_text_toComponents (version : Version) :
    version.toComponents.text.toList =
      integerDigits version.major ++ '.' :: (integerDigits version.minor ++ '.' ::
        (integerDigits version.patch ++
          ((marked "-" version.prerelease).toList ++ (marked "+" version.metadata).toList))) := by
  simp [Components.text, Version.toComponents]

/-- A number ends where the digits end.  When an integer stands in its place, that is no negative
integer, because a sign is no digit. -/
lemma nonneg_and_tail_eq {number rest tail : List Char} {n : Int} (h : IsNumber number)
    (stop : ∀ c ∈ rest.head?, c.isDigit = false) (stop' : ∀ c ∈ tail.head?, c.isDigit = false)
    (same : number ++ rest = integerDigits n ++ tail) :
    0 ≤ n ∧ rest = tail := by
  obtain ⟨nonempty, digits⟩ := isNumeral_iff.1 h.1
  by_cases nonneg : 0 ≤ n
  · have digits' := (isNumeral_iff.1 (isNumber_integerDigits_iff.2 nonneg).1).2
    obtain ⟨-, left⟩ := takeWhile_dropWhile_run digits stop
    obtain ⟨-, left'⟩ := takeWhile_dropWhile_run digits' stop'
    rw [same] at left
    exact ⟨nonneg, left.symm.trans left'⟩
  · obtain ⟨c, run, rfl⟩ := List.exists_cons_of_ne_nil nonempty
    rw [integerDigits_of_neg nonneg] at same
    have sign : c = '-' := (List.cons.inj same).1
    have digit := digits c (by simp)
    rw [sign] at digit
    contradiction

/-- In a version text that starts with the digits of three integers, none of them is negative, and the
optional parts make up the rest. -/
theorem Components.SpelledBy.numbers {parts : Components} {major minor patch : Int}
    {tail : List Char} (stop : ∀ c ∈ tail.head?, c.isDigit = false)
    (h : parts.SpelledBy (integerDigits major ++ '.' :: (integerDigits minor ++ '.' ::
      (integerDigits patch ++ tail)))) :
    (0 ≤ major ∧ 0 ≤ minor ∧ 0 ≤ patch) ∧
    ∃ dashed plussed, IsMarked '-' IsPrerelease parts.prerelease.toList dashed ∧
      IsMarked '+' IsMetadata parts.metadata.toList plussed ∧ dashed ++ plussed = tail := by
  have dot : ∀ rest : List Char, ∀ c ∈ ('.' :: rest).head?, c.isDigit = false :=
    head_cons_outside (by decide)
  obtain ⟨dashed, plussed, hM, hm, hp, hyphen, plus, same⟩ := h
  obtain ⟨nonneg, same⟩ := nonneg_and_tail_eq hM (dot _) (dot _) same
  obtain ⟨nonneg', same⟩ := nonneg_and_tail_eq hm (dot _) (dot _) (List.cons.inj same).2
  obtain ⟨nonneg'', same⟩ :=
    nonneg_and_tail_eq hp (head_marked_no_digit hyphen plus) stop (List.cons.inj same).2
  exact ⟨⟨nonneg, nonneg', nonneg''⟩, dashed, plussed, hyphen, plus, same⟩

/-! ## The optional parts -/

lemma IsPrerelease.plus_notMem {cs : List Char} (h : IsPrerelease cs) : '+' ∉ cs := by
  intro plus
  have inside := h.forall_mem (fun token valid => valid.1.2) '+' plus
  exact absurd inside (by decide)

lemma IsMetadata.plus_notMem {cs : List Char} (h : IsMetadata cs) : '+' ∉ cs := by
  intro plus
  have inside := h.forall_mem (fun token valid => valid.2) '+' plus
  exact absurd inside (by decide)

section Marked

variable {prerelease metadata dashed plussed : List Char}

/-- Behind a hyphen stands the pre-release, up to the plus sign if there is one. -/
lemma of_marked_eq_hyphen {rest : List Char} (hyphen : IsMarked '-' IsPrerelease prerelease dashed)
    (plus : IsMarked '+' IsMetadata metadata plussed) (same : dashed ++ plussed = '-' :: rest) :
    IsPrerelease prerelease ∧ prerelease ++ plussed = rest := by
  obtain ⟨-, rfl⟩ | ⟨member, rfl⟩ := hyphen
  · have sign := plus.head '-' (by rw [← List.nil_append plussed, same]; rfl)
    contradiction
  · exact ⟨member, (List.cons.inj same).2⟩

/-- There is one plus sign at most, so it stands between the two parts. -/
lemma of_marked_eq_plus {front back : List Char}
    (hyphen : IsMarked '-' IsPrerelease prerelease dashed)
    (plus : IsMarked '+' IsMetadata metadata plussed)
    (same : dashed ++ plussed = '-' :: (front ++ '+' :: back)) :
    IsPrerelease front ∧ prerelease = front ∧ metadata = back := by
  obtain ⟨member, same⟩ := of_marked_eq_hyphen hyphen plus same
  obtain ⟨-, rfl⟩ | ⟨member', rfl⟩ := plus
  · rw [List.append_nil] at same
    have inside : '+' ∈ prerelease := by rw [same]; simp
    exact absurd inside member.plus_notMem
  · obtain ⟨rfl, -, rfl⟩ :=
      (List.append_cons_inj_of_notMem member.plus_notMem member'.plus_notMem).1 same
    exact ⟨member, rfl, rfl⟩

end Marked

/-! ## The parts that were given -/

lemma toList_marked_empty (mark : String) : (marked mark "").toList = [] := by
  simp [marked]

lemma toList_marked {mark part : String} (present : part ≠ "") :
    (marked mark part).toList = mark.toList ++ part.toList := by
  simp [marked, present]

/-- Whatever the optional parts are, they do not start with a digit. -/
lemma head_given_no_digit (prerelease metadata : String) :
    ∀ c ∈ ((marked "-" prerelease).toList ++ (marked "+" metadata).toList).head?,
      c.isDigit = false := by
  by_cases stable : prerelease = ""
  · rw [stable, toList_marked_empty, List.nil_append]
    by_cases absent : metadata = ""
    · rw [absent, toList_marked_empty]
      exact nofun
    · rw [toList_marked absent]
      exact head_cons_outside (by decide) _
  · rw [toList_marked stable]
    exact head_cons_outside (by decide) _

/-- Behind its mark a part is read as it was given. -/
lemma IsMarked.eq_of_marked {mark : Char} {language : List Char → Prop} {part : List Char}
    {given : String} (h : IsMarked mark language part (marked (String.singleton mark) given).toList) :
    part = given.toList := by
  by_cases absent : given = ""
  · subst absent
    rw [toList_marked_empty] at h
    obtain ⟨rfl, -⟩ | ⟨-, same⟩ := h
    · rfl
    · contradiction
  · rw [toList_marked absent, String.toList_singleton, List.singleton_append] at h
    obtain ⟨-, same⟩ | ⟨-, same⟩ := h
    · contradiction
    · exact (List.cons.inj same).2.symm

/-- What starts with a plus sign, if with anything, is metadata without a pre-release. -/
lemma of_marked_eq_metadata {prerelease metadata dashed plussed : List Char} {given : String}
    (hyphen : IsMarked '-' IsPrerelease prerelease dashed)
    (plus : IsMarked '+' IsMetadata metadata plussed)
    (same : dashed ++ plussed = (marked "+" given).toList) :
    prerelease = [] ∧ metadata = given.toList := by
  obtain ⟨rfl, rfl⟩ | ⟨-, rfl⟩ := hyphen
  · rw [List.nil_append] at same
    subst same
    exact ⟨rfl, plus.eq_of_marked⟩
  · exfalso
    by_cases absent : given = ""
    · rw [absent, toList_marked_empty] at same
      contradiction
    · rw [toList_marked absent] at same
      have sign : '-' = '+' := (List.cons.inj same).1
      contradiction

/-- The optional parts that are read are the ones that were given, unless the pre-release that was
given holds both. -/
theorem eq_or_moved_of_marked {prerelease metadata dashed plussed : List Char}
    {givenPrerelease givenMetadata : String}
    (hyphen : IsMarked '-' IsPrerelease prerelease dashed)
    (plus : IsMarked '+' IsMetadata metadata plussed)
    (same : dashed ++ plussed =
      (marked "-" givenPrerelease).toList ++ (marked "+" givenMetadata).toList) :
    (prerelease = givenPrerelease.toList ∧ metadata = givenMetadata.toList) ∨
      givenMetadata = "" ∧ IsPrerelease prerelease ∧ IsMetadata metadata ∧
        givenPrerelease.toList = prerelease ++ '+' :: metadata := by
  by_cases stable : givenPrerelease = ""
  · subst stable
    rw [toList_marked_empty, List.nil_append] at same
    exact .inl (of_marked_eq_metadata hyphen plus same)
  · rw [toList_marked stable] at same
    by_cases absent : givenMetadata = ""
    · subst absent
      rw [toList_marked_empty, List.append_nil] at same
      obtain ⟨member, same⟩ := of_marked_eq_hyphen hyphen plus same
      obtain ⟨rfl, rfl⟩ | ⟨member', rfl⟩ := plus
      · exact .inl ⟨by simpa using same, rfl⟩
      · exact .inr ⟨rfl, member, member', same.symm⟩
    · rw [toList_marked absent] at same
      obtain ⟨-, eq_front, eq_back⟩ := of_marked_eq_plus hyphen plus same
      exact .inl ⟨eq_front, eq_back⟩

/-! ## Texts that are version texts -/

/-- The versions that are printed like another one: the pre-release is one with metadata behind it,
and there is no metadata besides. -/
structure Version.Conflated (version : Version) : Prop where
  major : 0 ≤ version.major
  minor : 0 ≤ version.minor
  patch : 0 ≤ version.patch
  prerelease : ∃ front back : String, IsPrerelease front.toList ∧ IsMetadata back.toList ∧
    version.prerelease = front ++ "+" ++ back
  metadata : version.metadata = ""

/-- A conflated version is printed like the version with the two parts in their places. -/
theorem Version.Conflated.exists_wellFormed {version : Version} (h : version.Conflated) :
    ∃ other : Version, other.WellFormed ∧
      other.toComponents.text = version.toComponents.text ∧
      (other.major = version.major ∧ other.minor = version.minor ∧ other.patch = version.patch) ∧
      other.prerelease ≠ version.prerelease := by
  obtain ⟨front, back, prerelease, metadata, conflated⟩ := h.prerelease
  have front_present : front ≠ "" := by
    rintro rfl
    exact prerelease.ne_nil rfl
  have back_present : back ≠ "" := by
    rintro rfl
    exact metadata.ne_nil rfl
  refine ⟨{ version with prerelease := front, metadata := back },
    ⟨h.major, h.minor, h.patch, .inr prerelease, .inr metadata⟩, ?_, ⟨rfl, rfl, rfl⟩, ?_⟩
  · rw [← String.toList_inj, toList_text_toComponents, toList_text_toComponents, h.metadata,
      conflated, toList_marked front_present, toList_marked back_present, toList_marked_empty,
      toList_marked (by simp)]
    simp
  · rw [conflated]
    intro (same : front = front ++ "+" ++ back)
    have plus : '+' ∈ front.toList := by
      rw [same]
      simp
    exact prerelease.plus_notMem plus

lemma Version.Conflated.isVersion_text {version : Version} (h : version.Conflated) :
    IsVersion version.toComponents.text := by
  obtain ⟨other, wellFormed, text, -, -⟩ := h.exists_wellFormed
  exact ⟨_, Version.toComponents_wellFormed_iff.2 wellFormed, text⟩

/-- The text of a version is a version text only when the version is well-formed or conflated. -/
theorem wellFormed_or_conflated {version : Version} (h : IsVersion version.toComponents.text) :
    version.WellFormed ∨ version.Conflated := by
  obtain ⟨parts, wellFormed, spelled⟩ := h
  have read := Components.spelledBy_iff.2 ⟨wellFormed, congrArg String.toList spelled⟩
  rw [toList_text_toComponents] at read
  obtain ⟨⟨major, minor, patch⟩, dashed, plussed, hyphen, plus, same⟩ :=
    read.numbers (head_given_no_digit _ _)
  obtain ⟨given, given'⟩ | ⟨absent, member, member', moved⟩ :=
    eq_or_moved_of_marked hyphen plus same
  · rw [String.toList_inj] at given given'
    exact .inl ⟨major, minor, patch, given ▸ wellFormed.prerelease, given' ▸ wellFormed.metadata⟩
  · refine .inr ⟨major, minor, patch, ⟨_, _, member, member', ?_⟩, absent⟩
    rw [← String.toList_inj, moved]
    simp

end SemanticVersion
