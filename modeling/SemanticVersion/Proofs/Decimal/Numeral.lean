import Mathlib.Algebra.Group.Nat.Defs
import Mathlib.Tactic.Common
import SemanticVersion.Decimal
import SemanticVersion.Proofs.Grammar.Language

/-!
# Numbers and their numerals

A number of the grammar has no superfluous leading zero, and that is all it takes for reading and
writing to undo each other: every natural number has exactly one numeral that is a number of the
grammar, and that is the one that is written for it.

The digit limit is the only thing that can go wrong.  It is the same limit in both directions,
because a numeral without superfluous zeros is as long as the number it stands for.

* `IsWritable` — the integers within the limit.
* `isNumber_toDigits`, `toDigits_ofDigitChars` — the numeral of a number, and the number of a numeral.
* `writeInteger_eq_ok_iff`, `readNatural_eq_ok_iff` — what is written, and what is read.
* `isNumber_integerDigits_iff` — only the digits of a negative integer are no number.
-/

namespace SemanticVersion

/-! ## Numerals of natural numbers -/

/-- Every numeral but that of zero starts with another digit than zero. -/
lemma exists_toDigits_eq_cons {n : Nat} (positive : 0 < n) :
    ∃ c run, Nat.toDigits 10 n = c :: run ∧ c ≠ '0' := by
  induction n using Nat.strongRecOn with
  | ind n ih =>
      rw [Nat.toDigits_eq_if (by omega)]
      split
      · refine ⟨n.digitChar, [], rfl, fun zero => ?_⟩
        rw [Nat.digitChar_eq_zero] at zero
        omega
      · obtain ⟨c, run, front, nonzero⟩ := ih (n / 10) (by omega) (by omega)
        exact ⟨c, run ++ [(n % 10).digitChar], by rw [front, List.cons_append], nonzero⟩

lemma isDigit_of_mem_toDigits {n : Nat} : ∀ c ∈ Nat.toDigits 10 n, c.isDigit = true :=
  fun _ hc => Nat.isDigit_of_mem_toDigits (by omega) (by omega) hc

theorem isNumber_toDigits (n : Nat) : IsNumber (Nat.toDigits 10 n) := by
  rw [isNumber_iff]
  rcases Nat.eq_zero_or_pos n with rfl | positive
  · exact .inl (Nat.toDigits_zero 10)
  · obtain ⟨c, run, numeral, nonzero⟩ := exists_toDigits_eq_cons positive
    have digits := @isDigit_of_mem_toDigits n
    rw [numeral, List.forall_mem_cons] at digits
    exact .inr ⟨c, run, numeral, digits.1, nonzero, digits.2⟩

/-- A digit is the numeral of its value. -/
lemma toDigits_digit {c : Char} (digit : c.isDigit = true) :
    c.toNat - '0'.toNat < 10 ∧ Nat.toDigits 10 (c.toNat - '0'.toNat) = [c] := by
  have zero : '0'.toNat = 48 := rfl
  have range : 48 ≤ c.toNat ∧ c.toNat ≤ 57 := by
    simpa [Char.isDigit, UInt32.le_iff_toNat_le] using digit
  have small : c.toNat - '0'.toNat < 10 := by omega
  refine ⟨small, ?_⟩
  rw [Nat.toDigits_of_lt_base small, List.cons.injEq]
  refine ⟨Char.toNat_inj.1 ?_, rfl⟩
  rw [Nat.toNat_digitChar_of_lt_ten small]
  omega

/-- Digits behind the numeral of a positive number make up the numeral of what is read. -/
lemma toDigits_append_digits {cs : List Char} (digits : ∀ c ∈ cs, c.isDigit = true) {n : Nat}
    (positive : 0 < n) : Nat.toDigits 10 n ++ cs = Nat.toDigits 10 (Nat.ofDigitChars 10 cs n) := by
  induction cs generalizing n with
  | nil => simp
  | cons c cs ih =>
      obtain ⟨digit, digits⟩ := List.forall_mem_cons.1 digits
      obtain ⟨small, numeral⟩ := toDigits_digit digit
      have appended := Nat.toDigits_append_toDigits (by omega) positive small
      rw [numeral] at appended
      rw [Nat.ofDigitChars_cons, ← ih digits (by omega), ← appended]
      simp

/-- A number of the grammar is the numeral of what is read from it. -/
theorem toDigits_ofDigitChars {cs : List Char} (number : IsNumber cs) :
    Nat.toDigits 10 (Nat.ofDigitChars 10 cs 0) = cs := by
  obtain rfl | ⟨c, run, rfl, digit, nonzero, digits⟩ := isNumber_iff.1 number
  · rfl
  · obtain ⟨small, numeral⟩ := toDigits_digit digit
    have positive : 0 < c.toNat - '0'.toNat := by
      by_contra zero
      rw [Nat.eq_zero_of_not_pos zero] at numeral
      exact nonzero (List.cons.inj numeral).1.symm
    have read := toDigits_append_digits digits positive
    rw [numeral] at read
    rw [Nat.ofDigitChars_cons, Nat.mul_zero, Nat.zero_add, ← read, List.singleton_append]

/-! ## Within the limit -/

/-- An integer is writable when it has no more digits than the limit allows. -/
def IsWritable (n : Int) : Prop :=
  n.natAbs < 10 ^ digitLimit

instance (n : Int) : Decidable (IsWritable n) :=
  inferInstanceAs (Decidable (n.natAbs < 10 ^ digitLimit))

lemma length_toDigits_le_digitLimit_iff {n : Nat} :
    (Nat.toDigits 10 n).length ≤ digitLimit ↔ IsWritable n :=
  Nat.length_toDigits_le_iff (by omega) (by decide)

/-- Integers of one digit are writable. -/
lemma isWritable_of_lt_ten {n : Int} (h : n.natAbs < 10) : IsWritable n :=
  Nat.lt_of_lt_of_le h (Nat.le_self_pow (by decide) 10)

theorem writeInteger_eq_ok_iff {n : Int} {text : String} :
    writeInteger n = .ok text ↔ IsWritable n ∧ String.ofList (integerDigits n) = text := by
  have within : (Nat.toDigits 10 n.natAbs).length ≤ digitLimit ↔ IsWritable n :=
    length_toDigits_le_digitLimit_iff
  by_cases writable : IsWritable n
  · simp [writeInteger, within.2 writable, writable]
  · simp [writeInteger, within.not.2 writable, writable]

/-! ## Numerals of integers -/

lemma integerDigits_of_nonneg {n : Int} (nonneg : 0 ≤ n) :
    integerDigits n = Nat.toDigits 10 n.natAbs :=
  if_neg (by omega)

/-- A negative integer is written with a sign. -/
lemma integerDigits_of_neg {n : Int} (negative : ¬ 0 ≤ n) :
    integerDigits n = '-' :: Nat.toDigits 10 n.natAbs :=
  if_pos (by omega)

/-- The digits of an integer are a number of the grammar unless there is a sign in front of them. -/
theorem isNumber_integerDigits_iff {n : Int} : IsNumber (integerDigits n) ↔ 0 ≤ n := by
  constructor
  · rintro ⟨numeral, -⟩
    by_contra negative
    rw [integerDigits_of_neg negative, isNumeral_iff] at numeral
    exact absurd (numeral.2 '-' (by simp)) (by decide)
  · intro nonneg
    rw [integerDigits_of_nonneg nonneg]
    exact isNumber_toDigits _

/-- A run of digits within the limit is read as its value, whether or not it is padded. -/
lemma readNatural_eq_ok_iff_ofDigitChars {cs : List Char} {n : Nat} :
    readNatural cs = .ok n ↔ cs.length ≤ digitLimit ∧ Nat.ofDigitChars 10 cs 0 = n := by
  rw [readNatural]
  by_cases within : cs.length ≤ digitLimit
  · rw [if_pos within, Except.ok.injEq, and_iff_right within]
  · rw [if_neg within]
    simp [within]

/-- A run of digits is read unless it is over the limit. -/
lemma exists_readNatural_eq_ok_iff {cs : List Char} :
    (∃ n, readNatural cs = .ok n) ↔ cs.length ≤ digitLimit := by
  simp [readNatural_eq_ok_iff_ofDigitChars]

/-- What is read from a number of the grammar is the natural number with these digits. -/
theorem readNatural_eq_ok_iff {cs : List Char} (number : IsNumber cs) {n : Nat} :
    readNatural cs = .ok n ↔ IsWritable n ∧ integerDigits n = cs := by
  rw [integerDigits_of_nonneg (Int.natCast_nonneg n), Int.natAbs_natCast]
  constructor
  · intro read
    rw [readNatural] at read
    split at read
    · next within =>
        obtain rfl := Except.ok.inj read
        rw [← length_toDigits_le_digitLimit_iff, toDigits_ofDigitChars number]
        exact ⟨within, rfl⟩
    · contradiction
  · rintro ⟨writable, rfl⟩
    exact readNatural_toDigits (length_toDigits_le_digitLimit_iff.2 writable)

end SemanticVersion
