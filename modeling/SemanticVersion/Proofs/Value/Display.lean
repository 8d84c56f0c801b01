import SemanticVersion.Proofs.Version.RoundTrip
import SemanticVersion.Value

/-!
# When a value can be displayed

A message about a value displays the value, with everything that is inside.  The display fails when an
integer in it is over the digit limit, however deep it lies, and for no other reason.

* `Value.integers` — the integers that are displayed with a value.
* `exists_literal_iff` — a value can be displayed when all of them can be written.
* `exists_plain` — and then it has a plain text, too.
-/

namespace SemanticVersion

/-- The integers of a version. -/
def Version.integers (version : Version) : List Int :=
  [version.major, version.minor, version.patch]

/-- The integer of a field, if it is numeric. -/
def Field.integers : Field → List Int
  | .numeric value => [value]
  | .alphanumeric _ => []

namespace Value

mutual

/-- The integers that are displayed with a value. -/
def integers : Value → List Int
  | .int value => [value]
  | .list items | .tuple items => itemIntegers items
  | .table entries => entryIntegers entries
  | .version value => value.integers
  | .field value => value.integers
  | .nothing | .bool _ | .text _ | .float _ | .bytes _ | .identifier _ | .foreign _ => []

/-- The integers that are displayed with some values. -/
def itemIntegers : List Value → List Int
  | [] => []
  | value :: values => integers value ++ itemIntegers values

/-- The integers that are displayed with the entries of a table. -/
def entryIntegers : List (String × Value) → List Int
  | [] => []
  | (_, value) :: entries => integers value ++ entryIntegers entries

end

end Value

lemma exists_writeInteger_iff {n : Int} : (∃ text, writeInteger n = .ok text) ↔ IsWritable n := by
  simp [writeInteger_eq_ok_iff]

lemma Version.exists_literal_iff {version : Version} :
    (∃ shown, version.literal = .ok shown) ↔ ∀ n ∈ version.integers, IsWritable n := by
  have writable : (∃ text, version.text = .ok text) ↔ version.Writable := by
    simp [Version.text_eq_ok_iff]
  rw [Version.literal, exists_bind_pure_eq_ok_iff, writable]
  simp only [Version.integers, List.forall_mem_cons, List.not_mem_nil, false_imp_iff, implies_true,
    and_true]
  exact ⟨fun h => ⟨h.major, h.minor, h.patch⟩, fun ⟨major, minor, patch⟩ => ⟨major, minor, patch⟩⟩

lemma Field.exists_literal_iff {field : Field} :
    (∃ shown, field.literal = .ok shown) ↔ ∀ n ∈ field.integers, IsWritable n := by
  cases field with
  | numeric value =>
      rw [Field.literal, exists_bind_pure_eq_ok_iff, exists_writeInteger_iff]
      simp [Field.integers]
  | alphanumeric text => simp [Field.literal, Field.integers, pure, Except.pure]

namespace Value

mutual

/-- **A value can be displayed when all integers in it can be written.** -/
theorem exists_literal_iff : (value : Value) →
    ((∃ shown, value.literal = .ok shown) ↔ ∀ n ∈ value.integers, IsWritable n)
  | .int value => by
      rw [literal, exists_writeInteger_iff]
      simp [integers]
  | .list items => by
      rw [literal, exists_bind_pure_eq_ok_iff, exists_literals_iff items, integers]
  | .tuple items => by
      rw [literal, exists_bind_pure_eq_ok_iff, exists_literals_iff items, integers]
  | .table entries => by
      rw [literal, exists_bind_pure_eq_ok_iff, exists_entryLiterals_iff entries, integers]
  | .version value => by rw [literal, Version.exists_literal_iff, integers]
  | .field value => by rw [literal, Field.exists_literal_iff, integers]
  | .bool value => by cases value <;> simp [literal, integers, pure, Except.pure]
  | .nothing | .text _ | .float _ | .bytes _ | .identifier _ | .foreign _ => by
      simp [literal, integers, pure, Except.pure]

theorem exists_literals_iff : (values : List Value) →
    ((∃ shown, literals values = .ok shown) ↔ ∀ n ∈ itemIntegers values, IsWritable n)
  | [] => by simp [literals, itemIntegers, pure, Except.pure]
  | value :: values => by
      rw [itemIntegers, List.forall_mem_append, ← exists_literal_iff value,
        ← exists_literals_iff values, literals]
      simp [bind_eq_ok_iff, pure, Except.pure]

theorem exists_entryLiterals_iff : (entries : List (String × Value)) →
    ((∃ shown, entryLiterals entries = .ok shown) ↔ ∀ n ∈ entryIntegers entries, IsWritable n)
  | [] => by simp [entryLiterals, entryIntegers, pure, Except.pure]
  | (key, value) :: entries => by
      rw [entryIntegers, List.forall_mem_append, ← exists_literal_iff value,
        ← exists_entryLiterals_iff entries, entryLiterals]
      simp [bind_eq_ok_iff, pure, Except.pure]

end

/-- The plain text of a value says no more than its display. -/
theorem exists_plain {value : Value} (writable : ∀ n ∈ value.integers, IsWritable n) :
    ∃ shown, value.plain = .ok shown := by
  have displayed := value.exists_literal_iff.2 writable
  cases value with
  | version value =>
      simp only [integers, Version.integers, List.forall_mem_cons] at writable
      exact ⟨_, Version.text_eq_ok_iff.2 ⟨⟨writable.1, writable.2.1, writable.2.2.1⟩, rfl⟩⟩
  | field value =>
      cases value with
      | numeric n => exact exists_writeInteger_iff.2 (writable n (by simp [integers, Field.integers]))
      | alphanumeric text => exact ⟨text, rfl⟩
  | text value => exact ⟨value, rfl⟩
  | identifier value => exact ⟨_, rfl⟩
  | foreign value => exact ⟨value.plain, rfl⟩
  | _ => exact displayed

end Value

end SemanticVersion
