import EntityQuery.Numeral
import Mathlib.Algebra.Ring.Int.Defs
import Mathlib.Algebra.Ring.Nat

/-!
# Reading numerals

What is read as a number consists of digits after its sign, and each digit takes its place below the
ones in front of it. The digits of a signed number are read as that number again, over the whole
range of sixty-four bits. The least number has no positive counterpart in this range, so its sign is
read with the digits and not applied to what they spell.
-/

namespace EntityQuery.Numeral

theorem extend_eq_ofDigitChars (cs : List Char) (read : Nat) :
    extend read cs = Nat.ofDigitChars 10 cs read := by
  induction cs generalizing read with
  | nil => rw [extend.eq_def, Nat.ofDigitChars_nil]
  | cons c cs ih =>
      rw [extend.eq_def, Nat.ofDigitChars_cons]
      exact ih _

theorem extend_cons (read : Nat) (c : Char) (cs : List Char) :
    extend read (c :: cs) = extend (10 * read + (c.toNat - '0'.toNat)) cs := by
  rw [extend.eq_def]

theorem digit_le {c : Char} (digit : c.isDigit) : c.toNat - '0'.toNat ≤ 9 := by
  rw [Char.isDigit, Bool.and_eq_true, decide_eq_true_eq, decide_eq_true_eq] at digit
  have bound : c.toNat ≤ 57 := digit.2
  have zero : '0'.toNat = 48 := rfl
  omega

/-- Further digits stand below the ones that have been read. -/
theorem extend_bounds (read : Nat) {cs : List Char} (digits : cs.all Char.isDigit) :
    read * 10 ^ cs.length ≤ extend read cs ∧ extend read cs < (read + 1) * 10 ^ cs.length := by
  induction cs generalizing read with
  | nil =>
      rw [List.length_nil, Nat.pow_zero, Nat.mul_one, Nat.mul_one, extend.eq_def]
      exact ⟨Nat.le_refl read, Nat.lt_succ_self read⟩
  | cons c cs ih =>
      rw [List.all_cons, Bool.and_eq_true] at digits
      have digit := digit_le digits.1
      obtain ⟨below, above⟩ := ih (10 * read + (c.toNat - '0'.toNat)) digits.2
      rw [extend_cons, List.length_cons, Nat.pow_succ', ← Nat.mul_assoc, ← Nat.mul_assoc]
      refine ⟨Nat.le_trans ?_ below, Nat.lt_of_lt_of_le above ?_⟩
      · exact Nat.mul_le_mul_right _ (by omega)
      · exact Nat.mul_le_mul_right _ (by omega)

theorem toDigits_all_isDigit (n : Nat) : (Nat.toDigits 10 n).all Char.isDigit := by
  rw [List.all_eq_true]
  exact fun c mem => Nat.isDigit_of_mem_toDigits (by decide) (by decide) mem

@[simp] theorem nat?_toDigits (n : Nat) : nat? (Nat.toDigits 10 n) = some n := by
  simp [nat?, toDigits_all_isDigit, Nat.toDigits_ne_nil, extend_eq_ofDigitChars]

theorem nat?_eq_some {cs : List Char} {n : Nat} (h : nat? cs = some n) :
    cs ≠ [] ∧ cs.all Char.isDigit ∧ n = extend 0 cs := by
  rw [nat?] at h
  split at h
  · cases h
  · next digits =>
      cases h
      simpa using digits

/-- The digits of an integer, after its sign. -/
theorem int?_eq_some {cs : List Char} {i : Int} (h : int? cs = some i) :
    ∃ (negative : Bool) (digits : List Char), digits ≠ [] ∧ digits.all Char.isDigit ∧
      i = (if negative then -(extend 0 digits : Int) else extend 0 digits) ∧
      (cs = '+' :: digits ∨ cs = if negative then '-' :: digits else digits) := by
  unfold int? at h
  split at h
  · next rest =>
      cases found : nat? rest with
      | none =>
          rw [found] at h
          cases h
      | some n =>
          rw [found] at h
          cases h
          obtain ⟨nonempty, digits, rfl⟩ := nat?_eq_some found
          exact ⟨true, rest, nonempty, digits, rfl, .inr rfl⟩
  · next rest =>
      obtain ⟨n, found, rfl⟩ := Option.map_eq_some_iff.1 h
      obtain ⟨nonempty, digits, rfl⟩ := nat?_eq_some found
      exact ⟨false, rest, nonempty, digits, rfl, .inl rfl⟩
  · obtain ⟨n, found, rfl⟩ := Option.map_eq_some_iff.1 h
    obtain ⟨nonempty, digits, rfl⟩ := nat?_eq_some found
    exact ⟨false, cs, nonempty, digits, rfl, .inr rfl⟩

theorem int?_of_isDigit {cs : List Char} (digits : cs.all Char.isDigit) :
    int? cs = (nat? cs).map Int.ofNat := by
  unfold int?
  split
  · cases digits
  · cases digits
  · rfl

@[simp] theorem fit?_toInt (i : Int64) : fit? i.toInt = some i := by
  have low := Int64.minValue_le_toInt i
  have high := Int64.toInt_le i
  rw [fit?, if_pos ⟨by simpa using low, by simpa using high⟩, Int64.ofInt_toInt]

theorem toInt_minValue : Int64.minValue.toInt = -2 ^ 63 := by decide

theorem toInt_maxValue : Int64.maxValue.toInt = 2 ^ 63 - 1 := by decide

theorem fit?_eq_some {n : Int} {i : Int64} (h : fit? n = some i) : i.toInt = n := by
  rw [fit?] at h
  split at h
  · next fits =>
      cases h
      rw [toInt_minValue, toInt_maxValue] at fits
      exact Int64.toInt_ofInt_of_le (by omega) (by omega)
  · cases h

theorem fit?_eq_none {n : Int} (h : fit? n = none) : ¬ (-2 ^ 63 ≤ n ∧ n < 2 ^ 63) := by
  rw [fit?] at h
  split at h
  · cases h
  · next beyond =>
      rw [toInt_minValue, toInt_maxValue] at beyond
      omega

/-- A number that is not negative is written as its digits. -/
theorem ofInt64_of_nonneg {i : Int64} (h : 0 ≤ i.toInt) :
    ofInt64 i = toString i.toInt.toNat := by
  obtain ⟨n, same⟩ := Int.eq_ofNat_of_zero_le h
  rw [ofInt64, same]
  rfl

/-- A negative number is written as a sign and the digits of its absolute value. -/
theorem ofInt64_of_neg {i : Int64} (h : i.toInt < 0) :
    ofInt64 i = "-" ++ toString i.toInt.natAbs := by
  obtain ⟨n, same⟩ := Int.eq_negSucc_of_lt_zero h
  rw [ofInt64, same]
  rfl

theorem int64?_toString {i : Int64} (h : 0 ≤ i.toInt) :
    int64? (toString i.toInt.toNat).toList = some i := by
  have same : Int.ofNat i.toInt.toNat = i.toInt := Int.toNat_of_nonneg h
  rw [int64?, Nat.toString_eq_ofList_toDigits, String.toList_ofList,
    int?_of_isDigit (toDigits_all_isDigit _), nat?_toDigits, Option.map_some, same]
  exact fit?_toInt i

theorem int64?_minus_toString {i : Int64} (h : i.toInt < 0) :
    int64? ('-' :: (toString i.toInt.natAbs).toList) = some i := by
  have same : -(i.toInt.natAbs : Int) = i.toInt := by omega
  have value : int? ('-' :: Nat.toDigits 10 i.toInt.natAbs) = some i.toInt := by
    rw [int?, nat?_toDigits]
    exact congrArg some same
  rw [int64?, Nat.toString_eq_ofList_toDigits, String.toList_ofList, value]
  exact fit?_toInt i

/-- Every signed number is read back. -/
theorem int64?_ofInt64 (i : Int64) : int64? (ofInt64 i).toList = some i := by
  obtain nonneg | neg := Int.lt_or_le i.toInt 0 |>.symm
  · rw [ofInt64_of_nonneg nonneg, int64?_toString nonneg]
  · rw [ofInt64_of_neg neg]
    simpa using int64?_minus_toString neg

example : int64? (ofInt64 Int64.minValue).toList = some Int64.minValue := by decide

end EntityQuery.Numeral
