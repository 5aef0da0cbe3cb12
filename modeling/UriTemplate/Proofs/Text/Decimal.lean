import Mathlib.Algebra.Group.Nat.Defs
import UriTemplate.Text.Digit

/-!
# Decimal numerals

The number that ASCII digits spell, leading zeros included. The reader of numbers finds it, and
the digits that a number is written with spell it.
-/

set_option autoImplicit false

namespace UriTemplate

namespace CodePoint

theorem isDigit_iff {point : CodePoint} :
    point.isDigit = true ↔ 0x30 ≤ point.toNat ∧ point.toNat ≤ 0x39 := by
  simp [isDigit]

theorem decimalValue?_of_isDigit {point : CodePoint} (digit : point.isDigit = true) :
    point.decimalValue? = some (point.toNat - 0x30) := by
  rcases isDigit_iff.mp digit with ⟨lower, upper⟩
  simp only [decimalValue?, decimalZeros, List.find?_cons]
  have inside : (decide (0x30 ≤ point.toNat) && decide (point.toNat < 0x30 + 10)) = true := by
    simp only [Bool.and_eq_true, decide_eq_true_eq]
    omega
  rw [inside]
  rfl

theorem isBlank_of_isDigit {point : CodePoint} (digit : point.isDigit = true) :
    point.isBlank = false := by
  rcases isDigit_iff.mp digit with ⟨lower, upper⟩
  simp only [isBlank, blanks, Stretch.anyCovers, Bool.and_eq_false_iff, Bool.or_eq_false_iff,
    decide_eq_false_iff_not]
  omega

end CodePoint

namespace Text

/-- The number that ASCII digits spell behind those of another number. -/
def decimalFrom (value : Nat) (digits : Text) : Nat :=
  digits.foldl (fun value digit => 10 * value + (digit.toNat - 0x30)) value

/-- The number that ASCII digits spell. -/
def decimalValue (digits : Text) : Nat :=
  decimalFrom 0 digits

theorem decimalFrom_cons (value : Nat) (digit : CodePoint) (rest : Text) :
    decimalFrom value (digit :: rest) =
      decimalFrom (10 * value + (digit.toNat - 0x30)) rest := by
  rw [decimalFrom, List.foldl_cons, ← decimalFrom]

variable {digits : Text}

theorem decimalFrom_lt (value : Nat) (every : ∀ digit ∈ digits, digit.isDigit = true) :
    decimalFrom value digits < (value + 1) * 10 ^ digits.length := by
  induction digits generalizing value with
  | nil => simp [decimalFrom]
  | cons digit rest ih =>
      have bound := CodePoint.isDigit_iff.mp (every digit (by simp))
      have tail := ih (10 * value + (digit.toNat - 0x30)) fun other member =>
        every other (by simp [member])
      have next : 10 * value + (digit.toNat - 0x30) + 1 ≤ (value + 1) * 10 := by omega
      rw [decimalFrom_cons, List.length_cons, Nat.pow_succ', ← Nat.mul_assoc]
      exact Nat.lt_of_lt_of_le tail (Nat.mul_le_mul_right _ next)

/-- A number is less than the power of ten for the number of its digits. -/
theorem decimalValue_lt (every : ∀ digit ∈ digits, digit.isDigit = true) :
    decimalValue digits < 10 ^ digits.length := by
  simpa [decimalValue] using decimalFrom_lt 0 every

/-- Four digits spell no number above 9999. -/
theorem decimalValue_le_of_length_le (every : ∀ digit ∈ digits, digit.isDigit = true)
    (short : digits.length ≤ 4) : decimalValue digits ≤ 9999 := by
  have less := decimalValue_lt every
  have power : 10 ^ digits.length ≤ 10 ^ 4 := Nat.pow_le_pow_right (by decide) short
  omega

/-- Where there are only digits, all of them are read and counted. -/
theorem readDigits?_of_isDigit (value count : Nat)
    (every : ∀ digit ∈ digits, digit.isDigit = true) :
    readDigits? value count digits =
      some ⟨decimalFrom value digits, count + digits.length, []⟩ := by
  induction digits generalizing value count with
  | nil => rfl
  | cons digit rest ih =>
      have tail := fun other member => every other (List.mem_cons_of_mem _ member)
      rw [readDigits?, CodePoint.decimalValue?_of_isDigit (every digit (by simp))]
      dsimp only
      rw [ih _ _ tail, decimalFrom_cons, Nat.mul_comm, List.length_cons, Nat.add_assoc,
        Nat.add_comm 1]

theorem dropWhile_isBlank (every : ∀ digit ∈ digits, digit.isDigit = true) :
    digits.dropWhile CodePoint.isBlank = digits := by
  cases digits with
  | nil => rfl
  | cons digit rest =>
      rw [List.dropWhile_cons, CodePoint.isBlank_of_isDigit (every digit (by simp)),
        if_neg Bool.false_ne_true]

/-- The reader of numbers finds the number that ASCII digits spell, unless they are too many. -/
theorem readInt_eq_of_isDigit (nonempty : digits ≠ [])
    (every : ∀ digit ∈ digits, digit.isDigit = true) :
    readInt digits =
      if digitLimit < digits.length then .error (.tooManyDigits digits.length)
      else .ok (decimalValue digits : Int) := by
  have back : ∀ digit ∈ digits.reverse, digit.isDigit = true := by
    simpa using every
  rw [readInt, trimBlanks, dropWhile_isBlank every, dropWhile_isBlank back, List.reverse_reverse]
  cases digits with
  | nil => contradiction
  | cons digit rest =>
      have head := every digit (by simp)
      have bound := CodePoint.isDigit_iff.mp head
      have notMinus : digit ≠ '-' := by
        intro sign
        subst sign
        exact absurd bound (by decide)
      have notPlus : digit ≠ '+' := by
        intro sign
        subst sign
        exact absurd bound (by decide)
      have tail : ∀ other ∈ rest, other.isDigit = true := by
        intro other member
        exact every other (List.mem_cons_of_mem _ member)
      dsimp only
      rw [if_neg notMinus, if_neg notPlus, readNat, CodePoint.decimalValue?_of_isDigit head,
        Option.bind_some, readDigits?_of_isDigit _ _ tail, List.length_cons, Nat.add_comm]
      dsimp only
      split
      · rfl
      · simp [decimalValue, decimalFrom_cons, Except.map]

theorem readInt_of_isDigit (nonempty : digits ≠ [])
    (every : ∀ digit ∈ digits, digit.isDigit = true) (short : digits.length ≤ digitLimit) :
    readInt digits = .ok (decimalValue digits : Int) := by
  rw [readInt_eq_of_isDigit nonempty every, if_neg (Nat.not_lt.mpr short)]

/-! ## Written numbers -/

theorem ofNat_ne_nil (number : Nat) : ofNat number ≠ [] := by
  simp [ofNat]

theorem isDigit_of_mem_ofNat {number : Nat} {digit : CodePoint} (member : digit ∈ ofNat number) :
    digit.isDigit = true := by
  rcases List.mem_map.mp member with ⟨char, inside, rfl⟩
  have digit := Nat.isDigit_of_mem_toDigits (by decide) (by decide) inside
  simp only [Char.isDigit, Bool.and_eq_true, decide_eq_true_eq, ge_iff_le,
    UInt32.le_iff_toNat_le] at digit
  exact CodePoint.isDigit_iff.mpr digit

/-- A number is written with as many digits as its size asks for. -/
theorem length_ofNat_le {number : Nat} (small : number ≤ 9999) : (ofNat number).length ≤ 4 := by
  rw [ofNat, List.length_map, Nat.length_toDigits_le_iff (by decide) (by decide)]
  omega

/-- A number has too many digits from a power of ten on. -/
theorem ofInt?_eq_none_iff (number : Int) :
    ofInt? number = none ↔ 10 ^ digitLimit ≤ number.natAbs := by
  have written : (ofNat number.natAbs).length ≤ digitLimit ↔ number.natAbs < 10 ^ digitLimit := by
    rw [ofNat, List.length_map, Nat.length_toDigits_le_iff (by decide) (by decide)]
  rw [ofInt?]
  split
  next few => simp [Nat.not_le.mpr (written.mp few)]
  next many => simp [Nat.not_lt.mp fun few => many (written.mpr few)]

/-- The digits that a number is written with spell it. -/
theorem decimalValue_ofNat (number : Nat) : decimalValue (ofNat number) = number := by
  have digits := Nat.ofDigitChars_ten_toDigits (n := number)
  rw [Nat.ofDigitChars_eq_foldl] at digits
  rw [decimalValue, decimalFrom, ofNat, List.foldl_map]
  exact digits

end Text

end UriTemplate
