import EntityQuery.Double
import Mathlib.Algebra.Order.Field.Power
import Mathlib.Data.Rat.Cast.Order
import Mathlib.Tactic.FieldSimp
import Mathlib.Tactic.Linarith
import Mathlib.Tactic.Positivity
import Mathlib.Tactic.Ring

/-!
# Rounding to doubles

A quotient is rounded to a double that differs from it by at most one half of its last place. So
the double is close to the quotient, and a quotient that is closer to a double than its neighbours
are is rounded to that double.
-/

namespace EntityQuery.Double

/-! ## Closeness -/

/-- Two positive numbers whose ratio is at most as far from one as that of so many roundings, each
by at most the `2 ^ 52`-th part. -/
def Close (n : Nat) (a b : ℚ) : Prop :=
  0 < a ∧ 0 < b ∧ a ≤ b * (1 + 1 / 2 ^ 52) ^ n ∧ b ≤ a * (1 + 1 / 2 ^ 52) ^ n

namespace Close

variable {a b c d : ℚ} {m n : Nat}

theorem mono (h : Close m a b) (more : m ≤ n) : Close n a b := by
  obtain ⟨a_pos, b_pos, ab, ba⟩ := h
  have grows : (1 + 1 / 2 ^ 52 : ℚ) ^ m ≤ (1 + 1 / 2 ^ 52) ^ n :=
    pow_le_pow_right₀ (by norm_num) more
  exact ⟨a_pos, b_pos, ab.trans (mul_le_mul_of_nonneg_left grows b_pos.le),
    ba.trans (mul_le_mul_of_nonneg_left grows a_pos.le)⟩

theorem symm (h : Close n a b) : Close n b a := ⟨h.2.1, h.1, h.2.2.2, h.2.2.1⟩

theorem trans (h : Close m a b) (h' : Close n b c) : Close (m + n) a c := by
  obtain ⟨a_pos, -, ab, ba⟩ := h
  obtain ⟨-, c_pos, bc, cb⟩ := h'
  refine ⟨a_pos, c_pos, ?_, ?_⟩
  · calc a ≤ b * (1 + 1 / 2 ^ 52) ^ m := ab
      _ ≤ c * (1 + 1 / 2 ^ 52) ^ n * (1 + 1 / 2 ^ 52) ^ m :=
        mul_le_mul_of_nonneg_right bc (by positivity)
      _ = c * (1 + 1 / 2 ^ 52) ^ (m + n) := by rw [pow_add]; ring
  · calc c ≤ b * (1 + 1 / 2 ^ 52) ^ n := cb
      _ ≤ a * (1 + 1 / 2 ^ 52) ^ m * (1 + 1 / 2 ^ 52) ^ n :=
        mul_le_mul_of_nonneg_right ba (by positivity)
      _ = a * (1 + 1 / 2 ^ 52) ^ (m + n) := by rw [pow_add]; ring

theorem mul (h : Close m a b) (h' : Close n c d) : Close (m + n) (a * c) (b * d) := by
  obtain ⟨a_pos, b_pos, ab, ba⟩ := h
  obtain ⟨c_pos, d_pos, cd, dc⟩ := h'
  refine ⟨mul_pos a_pos c_pos, mul_pos b_pos d_pos, ?_, ?_⟩
  · refine (mul_le_mul ab cd c_pos.le (by positivity)).trans_eq ?_
    rw [pow_add]
    ring
  · refine (mul_le_mul ba dc d_pos.le (by positivity)).trans_eq ?_
    rw [pow_add]
    ring

theorem of_abs_sub_le (positive : 0 < b) (near : |a - b| ≤ b / 2 ^ 53) : Close 1 a b := by
  rw [abs_le] at near
  norm_num at near
  refine ⟨by linarith, positive, ?_, ?_⟩
  · norm_num
    linarith
  · norm_num
    linarith

theorem le_two_mul (h : Close n a b) (few : n ≤ 8) : b ≤ 2 * a := by
  obtain ⟨a_pos, -, -, ba⟩ := h.mono few
  have factor : (1 + 1 / 2 ^ 52 : ℚ) ^ 8 ≤ 2 := by norm_num
  linarith [mul_le_mul_of_nonneg_left factor a_pos.le]

/-- The difference of close numbers, as a part of the second one. -/
theorem abs_sub_le (h : Close n a b) : |a - b| ≤ b * ((1 + 1 / 2 ^ 52) ^ n - 1) := by
  obtain ⟨a_pos, b_pos, ab, ba⟩ := h
  have one_le : (1 : ℚ) ≤ (1 + 1 / 2 ^ 52) ^ n := one_le_pow₀ (by norm_num)
  generalize (1 + 1 / 2 ^ 52 : ℚ) ^ n = t at *
  rw [abs_le]
  constructor
  · nlinarith
  · linarith

end Close

/-! ## Bits -/

theorem infiniteBits_eq : infiniteBits = 0x7FF0000000000000 := rfl

variable {negative : Bool} {n numerator denominator : Nat}

theorem toNat_bits_ofMagnitude (negative : Bool) (small : n ≤ infiniteBits) :
    (ofMagnitude negative n).bits.toNat = n + if negative then 2 ^ 63 else 0 := by
  rw [infiniteBits_eq] at small
  have two : Nat.pow 2 63 = 2 ^ 63 := rfl
  rw [ofMagnitude, UInt64.toNat_ofNat', two]
  refine Nat.mod_eq_of_lt ?_
  split <;> omega

theorem magnitudeBits_ofMagnitude (negative : Bool) (small : n ≤ infiniteBits) :
    (ofMagnitude negative n).magnitudeBits = n := by
  have two : Nat.pow 2 63 = 2 ^ 63 := rfl
  rw [magnitudeBits, toNat_bits_ofMagnitude negative small, two]
  rw [infiniteBits_eq] at small
  cases negative <;> simp <;> omega

theorem isNegative_ofMagnitude (negative : Bool) (small : n ≤ infiniteBits) :
    (ofMagnitude negative n).isNegative = negative := by
  have two : Nat.pow 2 63 = 2 ^ 63 := rfl
  rw [isNegative, toNat_bits_ofMagnitude negative small, two]
  rw [infiniteBits_eq] at small
  cases negative
  · simp
    omega
  · simp

theorem isFinite_ofMagnitude (negative : Bool) (small : n ≤ infiniteBits) :
    (ofMagnitude negative n).isFinite ↔ n < infiniteBits := by
  rw [isFinite, magnitudeBits_ofMagnitude negative small, decide_eq_true_eq]

theorem magnitudeBits_lt {d : Double} (finite : d.isFinite) : d.magnitudeBits < infiniteBits :=
  of_decide_eq_true finite

theorem ofMagnitude_magnitudeBits (d : Double) : ofMagnitude d.isNegative d.magnitudeBits = d := by
  have two : Nat.pow 2 63 = 2 ^ 63 := rfl
  have bound := d.bits.toNat_lt
  obtain ⟨bits⟩ := d
  rw [ofMagnitude, isNegative, magnitudeBits, two]
  refine congrArg Double.mk (UInt64.toNat_inj.1 ?_)
  rw [UInt64.toNat_ofNat']
  dsimp only at *
  by_cases large : 2 ^ 63 ≤ bits.toNat
  · simp only [large, decide_true, if_true]
    omega
  · simp only [large, decide_false, Bool.false_eq_true, if_false]
    omega

/-! ## Values -/

/-- The absolute value of a finite double; anything else counts as zero. -/
def absolute (d : Double) : ℚ :=
  match d.form with
  | .finite _ mantissa scale => mantissa * 2 ^ scale
  | _ => 0

/-- A double whose bits below the sign are a mantissa added to a multiple of `2 ^ 52`. -/
theorem absolute_ofMagnitude {k m : Nat} (low : 2 ^ 52 ≤ m) (high : m ≤ 2 ^ 53)
    (finite : k * 2 ^ 52 + m < infiniteBits) :
    (ofMagnitude negative (k * 2 ^ 52 + m)).absolute = m * 2 ^ (leastScale + k) := by
  have two : Nat.pow 2 52 = 2 ^ 52 := rfl
  have bits := magnitudeBits_ofMagnitude negative finite.le
  rw [infiniteBits_eq] at finite
  rw [absolute, form, bits, two]
  obtain less | rfl := Nat.lt_or_eq_of_le high
  · have field : (k * 2 ^ 52 + m) / 2 ^ 52 = k + 1 := by omega
    have fraction : (k * 2 ^ 52 + m) % 2 ^ 52 = m - 2 ^ 52 := by omega
    rw [field, fraction]
    have normal : k + 1 ≠ 0x7FF := by omega
    simp only [if_neg normal, if_neg (Nat.succ_ne_zero k), Nat.add_sub_cancel,
      Nat.add_sub_cancel' low]
  · have field : (k * 2 ^ 52 + 2 ^ 53) / 2 ^ 52 = k + 2 := by omega
    have fraction : (k * 2 ^ 52 + 2 ^ 53) % 2 ^ 52 = 0 := by omega
    rw [field, fraction]
    have normal : k + 2 ≠ 0x7FF := by omega
    have scale : leastScale + ((k + 2 - 1 : Nat) : Int) = leastScale + k + 1 := by omega
    simp only [if_neg normal, if_neg (Nat.succ_ne_zero (k + 1)), scale, Nat.add_zero,
      zpow_add_one₀ (two_ne_zero (α := ℚ))]
    push_cast
    ring

/-! ## Quotients -/

section

variable {base : ℚ} {exponent : Int}

theorem zpow_of_nonneg (nonneg : 0 ≤ exponent) : base ^ exponent = base ^ exponent.toNat := by
  rw [← zpow_natCast, Int.toNat_of_nonneg nonneg]

theorem zpow_of_neg (negative : exponent < 0) :
    base ^ exponent = (base ^ (-exponent).toNat)⁻¹ := by
  rw [← zpow_natCast, Int.toNat_of_nonneg (by omega), ← zpow_neg, neg_neg]

end

theorem timesTwoPow_pos (numerator : Nat) (positive : 0 < denominator) (exponent : Int) :
    0 < (timesTwoPow numerator denominator exponent).2 := by
  rw [timesTwoPow]
  split
  · exact positive
  · exact Nat.mul_pos positive (Nat.pow_pos two_pos)

/-- Multiplying by a power of two multiplies the quotient. -/
theorem timesTwoPow_div (numerator denominator : Nat) (exponent : Int) :
    ((timesTwoPow numerator denominator exponent).1 : ℚ) /
        (timesTwoPow numerator denominator exponent).2 =
      numerator / denominator * 2 ^ exponent := by
  rw [timesTwoPow]
  split
  · next nonneg =>
      rw [zpow_of_nonneg nonneg]
      simp only [Nat.pow_eq]
      push_cast
      ring
  · next negative =>
      rw [zpow_of_neg (not_le.1 negative)]
      simp only [Nat.pow_eq]
      push_cast
      rw [div_mul_eq_div_div]
      rfl

/-- The rounded quotient differs from the quotient by at most one half. -/
theorem roundQuotient_bounds (numerator : Nat) (positive : 0 < denominator) :
    2 * numerator ≤ (2 * roundQuotient numerator denominator + 1) * denominator ∧
      2 * roundQuotient numerator denominator * denominator ≤ 2 * numerator + denominator := by
  have whole := Nat.div_add_mod numerator denominator
  have rest := Nat.mod_lt numerator positive
  rw [roundQuotient]
  generalize numerator / denominator = q at *
  generalize numerator % denominator = r at *
  have parity := Nat.mod_lt q two_pos
  split
  · constructor <;> nlinarith
  · split
    · constructor <;> nlinarith
    · have tie : 2 * r = denominator := by omega
      obtain even | odd : q % 2 = 0 ∨ q % 2 = 1 := by omega
      · rw [even]
        constructor <;> nlinarith
      · rw [odd]
        constructor <;> nlinarith

theorem abs_roundQuotient_sub_le (numerator : Nat) (positive : 0 < denominator) :
    |(roundQuotient numerator denominator : ℚ) - numerator / denominator| ≤ 1 / 2 := by
  obtain ⟨below, above⟩ := roundQuotient_bounds numerator positive
  have divisor : (0 : ℚ) < denominator := by exact_mod_cast positive
  have below : (2 : ℚ) * numerator ≤
      (2 * roundQuotient numerator denominator + 1) * denominator := by
    exact_mod_cast below
  have above : (2 : ℚ) * roundQuotient numerator denominator * denominator ≤
      2 * numerator + denominator := by
    exact_mod_cast above
  rw [abs_le]
  constructor
  · rw [neg_le_sub_iff_le_add, div_le_iff₀ divisor]
    linarith
  · rw [sub_le_iff_le_add, ← sub_le_iff_le_add', le_div_iff₀ divisor]
    linarith

theorem log2_bounds {n : Nat} (some : 0 < n) :
    (2 : ℚ) ^ (n.log2 : ℤ) ≤ n ∧ (n : ℚ) < 2 ^ (n.log2 + 1 : ℤ) := by
  have below := Nat.log2_self_le some.ne'
  have above := Nat.lt_log2_self (n := n)
  exact ⟨by exact_mod_cast below, by exact_mod_cast above⟩

/-- The quotient of two numbers lies between powers of two that their binary logarithms tell. -/
theorem quotient_bounds (some : 0 < numerator) (positive : 0 < denominator) :
    (2 : ℚ) ^ ((numerator.log2 : ℤ) - denominator.log2 - 1) < numerator / denominator ∧
      (numerator / denominator : ℚ) < 2 ^ ((numerator.log2 : ℤ) - denominator.log2 + 1) := by
  obtain ⟨below, above⟩ := log2_bounds some
  obtain ⟨below', above'⟩ := log2_bounds positive
  have divisor : (0 : ℚ) < denominator := by exact_mod_cast positive
  have two : (2 : ℚ) ≠ 0 := two_ne_zero
  constructor
  · rw [lt_div_iff₀ divisor]
    calc (2 : ℚ) ^ ((numerator.log2 : ℤ) - denominator.log2 - 1) * denominator
        < 2 ^ ((numerator.log2 : ℤ) - denominator.log2 - 1) * 2 ^ (denominator.log2 + 1 : ℤ) :=
          mul_lt_mul_of_pos_left above' (by positivity)
      _ = 2 ^ (numerator.log2 : ℤ) := by rw [← zpow_add₀ two]; congr 1; ring
      _ ≤ numerator := below
  · rw [div_lt_iff₀ divisor]
    calc (numerator : ℚ) < 2 ^ (numerator.log2 + 1 : ℤ) := above
      _ = 2 ^ ((numerator.log2 : ℤ) - denominator.log2 + 1) * 2 ^ (denominator.log2 : ℤ) := by
          rw [← zpow_add₀ two]; congr 1; ring
      _ ≤ 2 ^ ((numerator.log2 : ℤ) - denominator.log2 + 1) * denominator :=
          mul_le_mul_of_nonneg_left below' (by positivity)

/-- The binary exponent of a positive quotient. -/
theorem binaryExponent_spec (some : 0 < numerator) (positive : 0 < denominator) :
    (2 : ℚ) ^ binaryExponent numerator denominator ≤ numerator / denominator ∧
      (numerator / denominator : ℚ) < 2 ^ (binaryExponent numerator denominator + 1) := by
  obtain ⟨below, above⟩ := quotient_bounds some positive
  generalize guess_eq : (numerator.log2 : ℤ) - denominator.log2 = guess at below above
  have divisor := timesTwoPow_pos numerator positive (-guess)
  have scaled := timesTwoPow_div numerator denominator (-guess)
  have reached : (timesTwoPow numerator denominator (-guess)).2 ≤
      (timesTwoPow numerator denominator (-guess)).1 ↔
        (2 : ℚ) ^ guess ≤ numerator / denominator := by
    rw [← Nat.cast_le (α := ℚ), ← one_le_div₀ (by exact_mod_cast divisor), scaled, zpow_neg,
      ← div_eq_mul_inv, one_le_div₀ (by positivity)]
  rw [binaryExponent, guess_eq]
  simp only [reached]
  split
  · next large => exact ⟨large, above⟩
  · next small =>
      rw [sub_add_cancel]
      exact ⟨below.le, not_le.1 small⟩

/-! ## Rounded quotients -/

/-- The least positive number from which on doubles have all their binary digits. -/
def leastNormal : ℚ := 2 ^ (-1022 : ℤ)

theorem leastNormal_pos : 0 < leastNormal := zpow_pos two_pos _

/-- A number of fifty-three binary digits is rounded to such a mantissa, or to the least number that
has one digit more. -/
theorem mantissa_bounds {m : Nat} {y : ℚ} (below : 2 ^ 52 ≤ y) (above : y < 2 ^ 53)
    (near : |m - y| ≤ 1 / 2) : 2 ^ 52 ≤ m ∧ m ≤ 2 ^ 53 := by
  rw [abs_le] at near
  constructor
  · have : (2 ^ 52 : ℚ) < m + 1 := by linarith
    have : 2 ^ 52 < m + 1 := by exact_mod_cast this
    omega
  · have : (m : ℚ) < 2 ^ 53 + 1 := by linarith
    have : m < 2 ^ 53 + 1 := by exact_mod_cast this
    omega

/-- A quotient that is large enough is rounded to a mantissa of fifty-three binary digits. -/
theorem ofQuotient_of_normal (negative : Bool) (positive : 0 < denominator)
    (normal : leastNormal ≤ numerator / denominator) :
    ∃ k m : Nat, 2 ^ 52 ≤ m ∧ m ≤ 2 ^ 53 ∧
      (2 : ℚ) ^ 52 * 2 ^ (leastScale + k) ≤ numerator / denominator ∧
      |(m : ℚ) * 2 ^ (leastScale + k) - numerator / denominator| ≤ 2 ^ (leastScale + k) / 2 ∧
      ofQuotient negative numerator denominator =
        ofMagnitude negative (min (k * 2 ^ 52 + m) infiniteBits) := by
  have some : 0 < numerator := by
    rw [Nat.pos_iff_ne_zero]
    rintro rfl
    rw [Nat.cast_zero, zero_div] at normal
    exact absurd normal (not_le.2 leastNormal_pos)
  obtain ⟨below, above⟩ := binaryExponent_spec some positive
  rw [ofQuotient, if_neg some.ne']
  generalize binaryExponent numerator denominator = e at *
  have large : -1022 < e + 1 := (zpow_lt_zpow_iff_right₀ one_lt_two).1 (normal.trans_lt above)
  obtain ⟨k, rfl⟩ : ∃ k : Nat, e = leastScale + k + 52 :=
    ⟨(e - 52 - leastScale).toNat, by simp only [leastScale]; omega⟩
  have scale : max (leastScale + k + 52 - 52) leastScale = leastScale + k := by omega
  have places : (leastScale + (k : ℤ) - leastScale).toNat = k := by omega
  simp only [scale, places]
  have divisor := timesTwoPow_pos numerator positive (-(leastScale + k))
  have near := abs_roundQuotient_sub_le
    (timesTwoPow numerator denominator (-(leastScale + k))).1 divisor
  rw [timesTwoPow_div] at near
  generalize roundQuotient _ _ = m at near
  -- Everything is compared in units of the last place of the mantissa.
  have unit : (0 : ℚ) < 2 ^ (leastScale + (k : ℤ)) := by positivity
  generalize quotient_eq : (numerator / denominator : ℚ) * 2 ^ (-(leastScale + k : ℤ)) = y at near
  have value : (numerator / denominator : ℚ) = y * 2 ^ (leastScale + (k : ℤ)) := by
    rw [← quotient_eq, mul_assoc, ← zpow_add₀ two_ne_zero, neg_add_cancel, zpow_zero, mul_one]
  have power (n : ℤ) : (2 : ℚ) ^ (leastScale + k + n) = 2 ^ n * 2 ^ (leastScale + (k : ℤ)) := by
    rw [zpow_add₀ two_ne_zero, mul_comm]
  rw [value, power, mul_le_mul_iff_of_pos_right unit] at below
  rw [value, add_assoc, power, mul_lt_mul_iff_of_pos_right unit] at above
  obtain ⟨low, high⟩ := mantissa_bounds (by exact_mod_cast below) (by exact_mod_cast above) near
  refine ⟨k, m, low, high, ?_, ?_, rfl⟩
  · rw [value, mul_le_mul_iff_of_pos_right unit]
    exact_mod_cast below
  · rw [value, ← sub_mul, abs_mul, abs_of_pos unit, div_eq_inv_mul, ← one_div,
      mul_le_mul_iff_of_pos_right unit]
    exact near

/-- A finite result is closer to the quotient than the last place of the mantissa. -/
theorem close_ofQuotient (positive : 0 < denominator)
    (normal : leastNormal ≤ numerator / denominator)
    (finite : (ofQuotient negative numerator denominator).isFinite) :
    Close 1 (ofQuotient negative numerator denominator).absolute (numerator / denominator) ∧
      (ofQuotient negative numerator denominator).isNegative = negative := by
  obtain ⟨k, m, low, high, large, near, rounded⟩ :=
    ofQuotient_of_normal negative positive normal
  have bounded := Nat.min_le_right (k * 2 ^ 52 + m) infiniteBits
  rw [rounded, isFinite_ofMagnitude negative bounded] at finite
  have small : k * 2 ^ 52 + m < infiniteBits := by omega
  rw [rounded, isNegative_ofMagnitude negative bounded, Nat.min_eq_left small.le,
    absolute_ofMagnitude low high small]
  refine ⟨.of_abs_sub_le (lt_of_lt_of_le (by positivity) large) (near.trans ?_), rfl⟩
  linarith

/-! ## Doubles are rounded to -/

/-- A double with all its binary digits, by these digits and their place. -/
theorem exists_mantissa {d : Double} (finite : d.isFinite) (normal : leastNormal ≤ d.absolute) :
    ∃ k m : Nat, 2 ^ 52 ≤ m ∧ m < 2 ^ 53 ∧ d.magnitudeBits = k * 2 ^ 52 + m ∧
      d.absolute = m * 2 ^ (leastScale + k) := by
  have two : Nat.pow 2 52 = 2 ^ 52 := rfl
  have small := magnitudeBits_lt finite
  have large : 2 ^ 52 ≤ d.magnitudeBits := by
    by_contra less
    have field : d.magnitudeBits / 2 ^ 52 = 0 := Nat.div_eq_of_lt (not_le.1 less)
    have value : d.absolute = (d.magnitudeBits : ℚ) * 2 ^ leastScale := by
      rw [absolute, form, two, field, Nat.mod_eq_of_lt (not_le.1 less)]
      rfl
    have least : leastNormal = 2 ^ 52 * 2 ^ leastScale := by
      rw [leastNormal, leastScale, ← zpow_natCast, ← zpow_add₀ two_ne_zero]
      rfl
    rw [value, least, mul_le_mul_iff_of_pos_right (by positivity)] at normal
    exact less (by exact_mod_cast normal)
  rw [infiniteBits_eq] at small
  refine ⟨d.magnitudeBits / 2 ^ 52 - 1, 2 ^ 52 + d.magnitudeBits % 2 ^ 52, by omega, by omega,
    by omega, ?_⟩
  have regular : d.magnitudeBits / 2 ^ 52 ≠ 0x7FF := by omega
  have some : d.magnitudeBits / 2 ^ 52 ≠ 0 := by omega
  rw [absolute, form, two, if_neg regular, if_neg some]

theorem absolute_lt {d : Double} (finite : d.isFinite) : d.absolute < 2 ^ 1024 := by
  by_cases normal : leastNormal ≤ d.absolute
  · obtain ⟨k, m, low, high, bits, value⟩ := exists_mantissa finite normal
    have small := magnitudeBits_lt finite
    rw [infiniteBits_eq] at small
    have place : leastScale + (k : ℤ) ≤ 971 := by
      rw [leastScale]
      omega
    have high : (m : ℚ) < 2 ^ 53 := by exact_mod_cast high
    calc d.absolute = m * 2 ^ (leastScale + (k : ℤ)) := value
      _ < 2 ^ 53 * 2 ^ (leastScale + (k : ℤ)) := mul_lt_mul_of_pos_right high (by positivity)
      _ ≤ 2 ^ 53 * 2 ^ (971 : ℤ) :=
        mul_le_mul_of_nonneg_left (zpow_le_zpow_right₀ one_le_two place) (by positivity)
      _ = 2 ^ 1024 := by
        rw [← zpow_natCast (2 : ℚ) 53, ← zpow_add₀ two_ne_zero]
        rfl
  · refine (not_le.1 normal).trans ?_
    rw [leastNormal, ← zpow_natCast]
    exact zpow_lt_zpow_right₀ one_lt_two (by decide)

section

variable {k k' m m' : Nat} {u u' x : ℚ}

theorem lt_of_near (unit : 0 < u) (high : m < 2 ^ 53)
    (close : |x - m * u| < m * u / 2 ^ 54) : x < 2 ^ 53 * u := by
  have high : (m : ℚ) + 1 ≤ 2 ^ 53 := by exact_mod_cast high
  have value := mul_le_mul_of_nonneg_right high unit.le
  rw [abs_lt] at close
  norm_num at *
  linarith

/-- Two mantissas of one place, the one rounded from a quotient and the other one close to it. -/
theorem mantissa_unique (unit : 0 < u) (high : m < 2 ^ 53) (near : |m' * u - x| ≤ u / 2)
    (close : |x - m * u| < m * u / 2 ^ 54) : m' = m := by
  have high : (m : ℚ) + 1 ≤ 2 ^ 53 := by exact_mod_cast high
  have value := mul_le_mul_of_nonneg_right high unit.le
  rw [abs_le] at near
  rw [abs_lt] at close
  norm_num at *
  have below : (m' : ℚ) * u < (m + 1) * u := by linarith
  have above : (m : ℚ) * u < (m' + 1) * u := by linarith
  have below := lt_of_mul_lt_mul_right below unit.le
  have above := lt_of_mul_lt_mul_right above unit.le
  have below : m' < m + 1 := by exact_mod_cast below
  have above : m < m' + 1 := by exact_mod_cast above
  omega

/-- A quotient that is rounded in a smaller place than the mantissa close to it is rounded to the
least mantissa of the next place. -/
theorem mantissa_carried (unit : 0 < u) (larger : 2 * u ≤ u') (low : 2 ^ 52 ≤ m)
    (high' : m' ≤ 2 ^ 53) (near : |m' * u - x| ≤ u / 2)
    (close : |x - m * u'| < m * u' / 2 ^ 54) : m' = 2 ^ 53 ∧ m = 2 ^ 52 ∧ u' < 4 * u := by
  have low' : (2 ^ 52 : ℚ) ≤ m := by exact_mod_cast low
  have high : (m' : ℚ) ≤ 2 ^ 53 := by exact_mod_cast high'
  have value := mul_le_mul_of_nonneg_right high unit.le
  rw [abs_le] at near
  rw [abs_lt] at close
  norm_num at low' high value near close
  have bound : (m : ℚ) * u' < (2 ^ 53 + 2) * u := by
    norm_num
    linarith
  norm_num at bound
  have least : m = 2 ^ 52 := by
    by_contra other
    have next : (2 ^ 52 + 1 : ℚ) ≤ m := by exact_mod_cast Nat.lt_of_le_of_ne low (Ne.symm other)
    have : (2 ^ 52 + 1 : ℚ) * (2 * u) ≤ m * u' :=
      mul_le_mul next larger (by positivity) (by positivity)
    norm_num at this
    linarith
  subst least
  push_cast at close bound
  refine ⟨?_, rfl, by linarith⟩
  have above : (2 ^ 53 : ℚ) * u < (m' + 1) * u := by
    norm_num
    linarith
  have above := lt_of_mul_lt_mul_right above unit.le
  have above : 2 ^ 53 < m' + 1 := by exact_mod_cast above
  omega

/-- Two mantissas that are rounded from one quotient, one of them with a smaller error, are those of
the same double. -/
theorem magnitude_unique (unit : 0 < u) (low : 2 ^ 52 ≤ m) (high : m < 2 ^ 53)
    (high' : m' ≤ 2 ^ 53) (large : 2 ^ 52 * (u * 2 ^ k') ≤ x)
    (near : |m' * (u * 2 ^ k') - x| ≤ u * 2 ^ k' / 2)
    (close : |x - m * (u * 2 ^ k)| < m * (u * 2 ^ k) / 2 ^ 54) :
    k' * 2 ^ 52 + m' = k * 2 ^ 52 + m := by
  have place (n : Nat) : 0 < u * 2 ^ n := by positivity
  have grows {i j : Nat} (less : i < j) : 2 * (u * 2 ^ i) ≤ u * 2 ^ j := by
    have : (2 : ℚ) ^ (i + 1) ≤ 2 ^ j := pow_le_pow_right₀ one_le_two less
    rw [pow_succ] at this
    linarith [mul_le_mul_of_nonneg_left this unit.le]
  obtain less | rfl | more := Nat.lt_trichotomy k k'
  · have := lt_of_near (place k) high close
    have := grows less
    norm_num at *
    linarith
  · rw [mantissa_unique (place k) high near close]
  · obtain ⟨rfl, rfl, next⟩ := mantissa_carried (place k') (grows more) low high' near close
    obtain rfl | further : k = k' + 1 ∨ k' + 1 < k := by omega
    · omega
    · have := grows further
      have := grows (Nat.lt_add_one k')
      linarith

end

/-- A quotient that is close enough to a double is rounded to it. -/
theorem ofQuotient_eq {d : Double} (finite : d.isFinite) (normal : 2 * leastNormal ≤ d.absolute)
    (positive : 0 < denominator)
    (close : |(numerator / denominator : ℚ) - d.absolute| < d.absolute / 2 ^ 54) :
    ofQuotient d.isNegative numerator denominator = d := by
  have least := leastNormal_pos
  have reached : leastNormal ≤ numerator / denominator := by
    rw [abs_lt] at close
    norm_num at close
    linarith
  obtain ⟨k, m, low, high, bits, value⟩ := exists_mantissa finite (by linarith)
  obtain ⟨k', m', low', high', large, near, rounded⟩ :=
    ofQuotient_of_normal d.isNegative positive reached
  have power (n : Nat) : (2 : ℚ) ^ (leastScale + n) = 2 ^ leastScale * 2 ^ n := by
    rw [zpow_add₀ two_ne_zero, zpow_natCast]
  rw [value, power] at close
  rw [power] at large near
  have same := magnitude_unique (by positivity) low high high' large near close
  have small := magnitudeBits_lt finite
  rw [rounded, same, ← bits, Nat.min_eq_left small.le, ofMagnitude_magnitudeBits]

end EntityQuery.Double
