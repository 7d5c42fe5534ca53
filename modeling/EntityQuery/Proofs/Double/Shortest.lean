import EntityQuery.Proofs.Decimal
import EntityQuery.Proofs.Double.Rounding

/-!
# Shortest decimals are close

Seventeen digits tell every double from its neighbours: on a grid of that size the point nearest to
the double is rounded to it. So the search for the shortest decimal comes to an end, and what it
finds is rounded to the double. A decimal that is rounded to a double is close to it.
-/

namespace EntityQuery.Double

open Numeral

/-! ## Decimal exponents -/

theorem digitCount_pos (n : Nat) : 0 < digitCount n := Nat.length_toDigits_pos

/-- The number of digits of a number tells between which powers of ten it lies. -/
theorem digitCount_bounds {n : Nat} (some : 0 < n) :
    10 ^ (digitCount n - 1) ≤ n ∧ n < 10 ^ digitCount n := by
  have upper := (Nat.length_toDigits_le_iff (n := n) (by decide : 1 < 10)
    (digitCount_pos n)).1 le_rfl
  refine ⟨?_, upper⟩
  obtain single | several : digitCount n = 1 ∨ 0 < digitCount n - 1 := by
    have := digitCount_pos n
    omega
  · rw [single]
    exact some
  · refine not_lt.1 fun less => ?_
    have := (Nat.length_toDigits_le_iff (n := n) (by decide : 1 < 10) several).2 less
    have pos := digitCount_pos n
    rw [← digitCount] at this
    omega

/-- The decimal exponent of a quotient that is at least one. -/
theorem decimalExponent_spec {numerator denominator : Nat} (positive : 0 < denominator)
    (whole : denominator ≤ numerator) :
    (10 : ℚ) ^ (decimalExponent numerator denominator - 1) ≤ numerator / denominator ∧
      (numerator / denominator : ℚ) < 10 ^ decimalExponent numerator denominator ∧
      1 ≤ decimalExponent numerator denominator := by
  have divisor : (0 : ℚ) < denominator := by exact_mod_cast positive
  have count := digitCount_pos (numerator / denominator)
  obtain ⟨below, above⟩ := digitCount_bounds (Nat.div_pos whole positive)
  rw [Nat.le_div_iff_mul_le positive] at below
  rw [Nat.div_lt_iff_lt_mul positive] at above
  rw [decimalExponent, if_pos whole]
  refine ⟨?_, ?_, by omega⟩
  · rw [le_div_iff₀ divisor, ← Nat.cast_pred count, zpow_natCast]
    exact_mod_cast below
  · rw [div_lt_iff₀ divisor, zpow_natCast]
    exact_mod_cast above

/-! ## Points of a grid -/

section

variable {d : Double} {numerator denominator c : Nat} {grid : Int}

/-- A quotient is its whole part and a rest below one. -/
theorem quotient_eq {n e : Nat} (divides : 0 < e) :
    (n / e : ℚ) = (n / e : Nat) + (n % e : Nat) / e ∧ ((n % e : Nat) / e : ℚ) < 1 := by
  have divisor : (0 : ℚ) < e := by exact_mod_cast divides
  constructor
  · rw [div_eq_iff divisor.ne', add_mul, div_mul_cancel₀ _ divisor.ne']
    exact_mod_cast (Nat.div_add_mod' n e).symm
  · rw [div_lt_one divisor]
    exact_mod_cast Nat.mod_lt n divides

/-- The points that are tried are those in front of and behind the quotient, the nearest one
first. -/
theorem readingBack?_eq (d : Double) (numerator : Nat) (positive : 0 < denominator) (grid : Int) :
    ∃ n e : Nat, 0 < e ∧ (n / e : ℚ) = numerator / denominator / 10 ^ grid ∧
      readingBack? d numerator denominator grid =
        (if 2 * (n % e) ≤ e then [n / e, n / e + 1] else [n / e + 1, n / e]).find?
          (ofDecimal false · grid == d) := by
  rw [readingBack?]
  split
  next n e scaled =>
    refine ⟨n, e, ?_, ?_, rfl⟩
    · split at scaled
      · cases scaled
        exact Nat.mul_pos positive (Nat.pow_pos (by decide))
      · cases scaled
        exact positive
    · split at scaled
      · next nonneg =>
          cases scaled
          rw [zpow_of_nonneg nonneg, Nat.pow_eq, Nat.cast_mul, Nat.cast_pow, div_mul_eq_div_div,
            Nat.cast_ofNat]
      · next negative =>
          cases scaled
          rw [zpow_of_neg (not_le.1 negative), Nat.pow_eq, Nat.cast_mul, Nat.cast_pow,
            div_inv_eq_mul, mul_div_right_comm, Nat.cast_ofNat]

/-- What is found is rounded to the double, and the quotient is not beyond the next point. -/
theorem readingBack?_eq_some (positive : 0 < denominator)
    (found : readingBack? d numerator denominator grid = some c) :
    ofDecimal false c grid = d ∧ (numerator / denominator / 10 ^ grid : ℚ) < c + 1 := by
  obtain ⟨n, e, divides, value, tried⟩ := readingBack?_eq d numerator positive grid
  rw [tried] at found
  obtain ⟨whole, rest⟩ := quotient_eq (n := n) divides
  have next : c = n / e ∨ c = n / e + 1 := by
    have := List.mem_of_find?_eq_some found
    split at this <;> simpa [or_comm] using this
  refine ⟨by simpa using List.find?_some found, ?_⟩
  rw [← value, whole]
  obtain rfl | rfl := next
  · linarith
  · push_cast
    linarith

/-- The nearest point is found if it is rounded to the double. -/
theorem readingBack?_isSome (positive : 0 < denominator)
    (rounded : ∀ c : Nat, |(c : ℚ) - numerator / denominator / 10 ^ grid| ≤ 1 / 2 →
      ofDecimal false c grid = d) :
    (readingBack? d numerator denominator grid).isSome := by
  obtain ⟨n, e, divides, value, tried⟩ := readingBack?_eq d numerator positive grid
  rw [tried]
  rw [← value] at rounded
  have divisor : (0 : ℚ) < e := by exact_mod_cast divides
  obtain ⟨whole, rest⟩ := quotient_eq (n := n) divides
  have nonneg : (0 : ℚ) ≤ (n % e : Nat) / e := by positivity
  have side : 2 * (n % e) ≤ e ↔ ((n % e : Nat) / e : ℚ) ≤ 1 / 2 := by
    rw [div_le_div_iff₀ divisor two_pos, one_mul, mul_comm]
    exact_mod_cast Iff.rfl
  have found {first second : Nat} (near : |(first : ℚ) - n / e| ≤ 1 / 2) :
      ([first, second].find? (ofDecimal false · grid == d)).isSome := by
    rw [List.find?_cons_of_pos (by simpa using rounded first near)]
    rfl
  split
  · next half =>
      refine found ?_
      rw [side] at half
      rw [whole, abs_le]
      constructor <;> linarith
  · next half =>
      refine found ?_
      rw [side, not_le] at half
      rw [whole, abs_le]
      push_cast
      constructor <;> linarith

/-- Something is found if something is found on the last grid. -/
theorem shortestFrom_spec {exponent : Int} (count more : Nat)
    (last : (readingBack? d numerator denominator (exponent - (count + more : Nat))).isSome) :
    ∃ c grid, readingBack? d numerator denominator grid = some c ∧
      shortestFrom d numerator denominator exponent count (more + 1) =
        ⟨Nat.toDigits 10 c, (Nat.toDigits 10 c).length + grid⟩ := by
  induction more generalizing count with
  | zero =>
      rw [Nat.add_zero] at last
      obtain ⟨c, found⟩ := Option.isSome_iff_exists.1 last
      refine ⟨c, exponent - count, found, ?_⟩
      rw [shortestFrom, found]
  | succ more ih =>
      rw [shortestFrom]
      cases found : readingBack? d numerator denominator (exponent - count) with
      | some c => exact ⟨c, exponent - count, found, rfl⟩
      | none =>
          have rest : count + 1 + more = count + (more + 1) := by omega
          rw [← rest] at last
          exact ih (count + 1) last

end

/-! ## Points that are rounded to a double -/

section

variable {d : Double} {c : Nat} {grid : Int}

/-- Reading a decimal within the range of doubles rounds it. -/
theorem ofDecimal_eq_ofQuotient (negative : Bool) (some : 0 < c)
    (low : -323 ≤ digitCount c + grid) (high : digitCount c + grid ≤ 309) :
    ∃ numerator denominator : Nat, 0 < denominator ∧
      (numerator / denominator : ℚ) = c * 10 ^ grid ∧
      ofDecimal negative c grid = ofQuotient negative numerator denominator := by
  have inside : ¬ (c = 0 || (digitCount c : Int) + grid < -323) := by
    simp only [Bool.or_eq_true, decide_eq_true_eq]
    omega
  have below : ¬ 309 < (digitCount c : Int) + grid := by omega
  rw [digitCount] at inside below
  rw [ofDecimal]
  simp only [inside, below]
  by_cases nonneg : 0 ≤ grid
  · refine ⟨c * 10 ^ grid.toNat, 1, one_pos, ?_, by simp [nonneg]⟩
    rw [zpow_of_nonneg nonneg]
    push_cast
    rw [div_one]
  · refine ⟨c, 10 ^ (-grid).toNat, by positivity, ?_, by simp [nonneg]⟩
    rw [zpow_of_neg (not_le.1 nonneg)]
    push_cast
    rfl

theorem ofDecimal_eq_infinity (negative : Bool) (some : 0 < c)
    (high : 309 < digitCount c + grid) : ofDecimal negative c grid = infinity negative := by
  have inside : ¬ (c = 0 || (digitCount c : Int) + grid < -323) := by
    simp only [Bool.or_eq_true, decide_eq_true_eq]
    omega
  rw [digitCount] at inside high
  rw [ofDecimal]
  simp only [inside, high, if_false, if_true, Bool.false_eq_true]

theorem not_isFinite_infinity (negative : Bool) : (infinity negative).isFinite = false := by
  cases negative <;> rfl

/-- The digits of a positive decimal tell between which powers of ten it lies. -/
theorem decimal_bounds (some : 0 < c) (grid : Int) :
    (10 : ℚ) ^ (digitCount c + grid - 1) ≤ c * 10 ^ grid ∧
      (c * 10 ^ grid : ℚ) < 10 ^ (digitCount c + grid) := by
  obtain ⟨below, above⟩ := digitCount_bounds some
  have ten : (10 : ℚ) ≠ 0 := by norm_num
  have unit : (0 : ℚ) < 10 ^ grid := by positivity
  have below : (10 : ℚ) ^ (digitCount c - 1) ≤ c := by exact_mod_cast below
  have above : (c : ℚ) < 10 ^ digitCount c := by exact_mod_cast above
  constructor
  · have split : (digitCount c : Int) + grid - 1 = ((digitCount c - 1 : Nat) : Int) + grid := by
      have := digitCount_pos c
      omega
    rw [split, zpow_add₀ ten, zpow_natCast]
    exact mul_le_mul_of_nonneg_right below unit.le
  · rw [zpow_add₀ ten, zpow_natCast]
    exact mul_lt_mul_of_pos_right above unit

theorem two_mul_leastNormal_le_one : 2 * leastNormal ≤ 1 := by
  rw [leastNormal, ← zpow_one_add₀ two_ne_zero, ← zpow_zero (2 : ℚ)]
  exact zpow_le_zpow_right₀ one_le_two (by decide)

theorem leastNormal_le_natCast {n : Nat} (some : 0 < n) : leastNormal ≤ n := by
  have one : (1 : ℚ) ≤ n := by exact_mod_cast some
  linarith only [one, two_mul_leastNormal_le_one, leastNormal_pos]

theorem pos_of_leastNormal_le (normal : leastNormal ≤ c * 10 ^ grid) : 0 < c := by
  rw [Nat.pos_iff_ne_zero]
  rintro rfl
  rw [Nat.cast_zero, zero_mul] at normal
  exact absurd normal (not_le.2 leastNormal_pos)

theorem low_of_leastNormal_le (normal : leastNormal ≤ c * 10 ^ grid) :
    -323 ≤ digitCount c + grid := by
  have small : (10 : ℚ) ^ (-323 : ℤ) < leastNormal := by
    have powers : 2 ^ 1022 < 10 ^ 323 := by decide +kernel
    rw [leastNormal, zpow_neg, zpow_neg]
    exact inv_strictAnti₀ (by positivity) (by exact_mod_cast powers)
  have bound := small.trans (normal.trans_lt (decimal_bounds (pos_of_leastNormal_le normal) grid).2)
  exact ((zpow_lt_zpow_iff_right₀ (by norm_num)).1 bound).le

/-- A decimal that is rounded to a finite double is close to it. -/
theorem close_ofDecimal {negative : Bool} (normal : leastNormal ≤ c * 10 ^ grid)
    (finite : (ofDecimal negative c grid).isFinite) :
    Close 1 (ofDecimal negative c grid).absolute (c * 10 ^ grid) ∧
      (ofDecimal negative c grid).isNegative = negative := by
  have some := pos_of_leastNormal_le normal
  obtain high | high := Int.lt_or_le 309 (digitCount c + grid)
  · rw [ofDecimal_eq_infinity negative some high, not_isFinite_infinity] at finite
    cases finite
  · obtain ⟨numerator, denominator, positive, value, rounded⟩ :=
      ofDecimal_eq_ofQuotient negative some (low_of_leastNormal_le normal) high
    rw [rounded] at finite ⊢
    rw [← value] at normal ⊢
    exact close_ofQuotient positive normal finite

/-- A decimal that is close enough to a double is rounded to it. -/
theorem ofDecimal_eq (finite : d.isFinite) (large : 1 ≤ d.absolute)
    (close : |c * 10 ^ grid - d.absolute| < d.absolute / 2 ^ 54) :
    ofDecimal d.isNegative c grid = d := by
  have least := two_mul_leastNormal_le_one
  have part : d.absolute / 2 ^ 54 ≤ d.absolute / 2 :=
    div_le_div_of_nonneg_left (zero_le_one.trans large) two_pos (by norm_num)
  obtain ⟨below, above⟩ := abs_lt.1 close
  have normal : leastNormal ≤ c * 10 ^ grid := by linarith only [least, large, part, below]
  have some := pos_of_leastNormal_le normal
  have high : (digitCount c : Int) + grid ≤ 309 := by
    have powers : 2 * 2 ^ 1024 < 10 ^ 309 := by decide +kernel
    have bound := calc
      (10 : ℚ) ^ (digitCount c + grid - 1) ≤ c * 10 ^ grid := (decimal_bounds some grid).1
      _ ≤ 2 * d.absolute := by linarith only [above, part, large]
      _ < 2 * 2 ^ 1024 := mul_lt_mul_of_pos_left (absolute_lt finite) two_pos
      _ < 10 ^ 309 := by exact_mod_cast powers
      _ = 10 ^ (309 : ℤ) := (zpow_natCast _ _).symm
    have := (zpow_lt_zpow_iff_right₀ (by norm_num)).1 bound
    omega
  obtain ⟨numerator, denominator, positive, value, rounded⟩ :=
    ofDecimal_eq_ofQuotient d.isNegative some (low_of_leastNormal_le normal) high
  rw [rounded]
  rw [← value] at close
  exact ofQuotient_eq finite (by linarith) positive close

end

/-! ## The shortest decimal -/

theorem exists_dropZeros (digits : List Char) :
    ∃ n, digits = dropZeros digits ++ List.replicate n '0' := by
  refine ⟨(digits.reverse.takeWhile (· == '0')).length, List.reverse_inj.1 ?_⟩
  have zeros : digits.reverse.takeWhile (· == '0') =
      List.replicate (digits.reverse.takeWhile (· == '0')).length '0' :=
    List.eq_replicate_of_mem fun c mem => by simpa using List.mem_takeWhile_imp mem
  rw [List.reverse_append, List.reverse_replicate, dropZeros, List.reverse_reverse, ← zeros,
    List.takeWhile_append_dropWhile]

/-- The zeros at the end do not add to the value. -/
theorem value_dropZeros (digits : List Char) (grid : Int) :
    Decimal.value ⟨dropZeros digits, digits.length + grid⟩ = extend 0 digits * 10 ^ grid := by
  obtain ⟨n, split⟩ := exists_dropZeros digits
  have length : (digits.length : Int) + grid - (dropZeros digits).length = n + grid := by
    have := congrArg List.length split
    rw [List.length_append, List.length_replicate] at this
    omega
  have whole : extend 0 digits = 10 ^ n * extend 0 (dropZeros digits) := by
    rw [← extend_replicate_zero, ← extend_append, ← split]
  rw [Decimal.value, length, whole, zpow_add₀ (by norm_num), zpow_natCast]
  push_cast
  ring

/-- On the grid of seventeen digits the nearest point is rounded to the double. -/
theorem ofDecimal_eq_of_last {d : Double} {numerator denominator c : Nat} (finite : d.isFinite)
    (large : 1 ≤ d.absolute) (positive : 0 < denominator)
    (value : (numerator / denominator : ℚ) = d.absolute)
    (near : |(c : ℚ) - numerator / denominator /
      10 ^ (decimalExponent numerator denominator - 17)| ≤ 1 / 2) :
    ofDecimal d.isNegative c (decimalExponent numerator denominator - 17) = d := by
  have divisor : (0 : ℚ) < denominator := by exact_mod_cast positive
  have whole : denominator ≤ numerator := by
    rw [← value, one_le_div₀ divisor] at large
    exact_mod_cast large
  obtain ⟨below, -, -⟩ := decimalExponent_spec positive whole
  rw [value] at below near
  generalize decimalExponent numerator denominator = e at *
  have ten : (10 : ℚ) ≠ 0 := by norm_num
  have unit : (0 : ℚ) < 10 ^ (e - 17) := by positivity
  have places : (10 : ℚ) ^ (e - 1) = 10 ^ (e - 17) * 10 ^ 16 := by
    rw [← zpow_natCast, ← zpow_add₀ ten]
    congr 1
    omega
  rw [places] at below
  refine ofDecimal_eq finite large ?_
  have error : |(c : ℚ) * 10 ^ (e - 17) - d.absolute| ≤ 1 / 2 * 10 ^ (e - 17) := by
    have factor : (c : ℚ) * 10 ^ (e - 17) - d.absolute =
        (c - d.absolute / 10 ^ (e - 17)) * 10 ^ (e - 17) := by
      rw [sub_mul, div_mul_cancel₀ _ unit.ne']
    rw [factor, abs_mul, abs_of_pos unit]
    exact mul_le_mul_of_nonneg_right near unit.le
  refine error.trans_lt ?_
  norm_num at below ⊢
  linarith

/-- What the search finds for a double of at least one is close to it. -/
theorem close_shortestFrom {d : Double} {numerator denominator : Nat} (finite : d.isFinite)
    (large : 1 ≤ d.absolute) (unsigned : d.isNegative = false) (positive : 0 < denominator)
    (value : (numerator / denominator : ℚ) = d.absolute) :
    ∃ c grid, shortestFrom d numerator denominator (decimalExponent numerator denominator) 1 17 =
        ⟨Nat.toDigits 10 c, (Nat.toDigits 10 c).length + grid⟩ ∧
      Close 1 d.absolute (c * 10 ^ grid) := by
  have last (c : Nat) := ofDecimal_eq_of_last (c := c) finite large positive value
  rw [unsigned] at last
  obtain ⟨c, grid, found, spelled⟩ := shortestFrom_spec 1 16
    (readingBack?_isSome positive last)
  obtain ⟨back, below⟩ := readingBack?_eq_some positive found
  refine ⟨c, grid, spelled, ?_⟩
  have some : c ≠ 0 := by
    rintro rfl
    have none : d.absolute = 0 := by
      have rounded : ofDecimal false 0 grid = zero false := by simp [ofDecimal]
      have form : (zero false).form = .finite false 0 leastScale := by decide
      simp [← back, rounded, absolute, form]
    rw [none] at large
    exact absurd large (by norm_num)
  have reached : leastNormal ≤ c * 10 ^ grid := by
    have unit : (0 : ℚ) < 10 ^ grid := by positivity
    have one : (1 : ℚ) ≤ c := by exact_mod_cast Nat.pos_of_ne_zero some
    rw [value, div_lt_iff₀ unit, add_mul, one_mul] at below
    have := mul_le_mul_of_nonneg_right one unit.le
    have := two_mul_leastNormal_le_one
    linarith
  rw [← back] at finite ⊢
  exact (close_ofDecimal reached finite).1

/-- The absolute value of a double does not depend on its sign. -/
theorem absolute_ofMagnitude_magnitudeBits {d : Double} (negative : Bool) (finite : d.isFinite) :
    (ofMagnitude negative d.magnitudeBits).absolute = d.absolute := by
  have small := magnitudeBits_lt finite
  simp only [absolute, form, magnitudeBits_ofMagnitude negative small.le]
  split_ifs <;> rfl

/-- The decimal that is written for a finite double is close to it. -/
theorem close_magnitude {d : Double} (finite : d.isFinite) (large : 1 ≤ d.absolute) :
    Close 1 d.absolute d.magnitude.value := by
  have small := magnitudeBits_lt finite
  obtain ⟨mantissa, scale, form⟩ := form_of_isFinite finite
  have value : d.absolute = mantissa * 2 ^ scale := by rw [absolute, form]
  have some : mantissa ≠ 0 := by
    rintro rfl
    rw [value, Nat.cast_zero, zero_mul] at large
    exact absurd large (by norm_num)
  simp only [magnitude, form, if_neg some, shortest, quotient]
  have positive := timesTwoPow_pos mantissa one_pos scale
  have ratio := timesTwoPow_div mantissa 1 scale
  rw [Nat.cast_one, div_one, ← value] at ratio
  generalize timesTwoPow mantissa 1 scale = q at positive ratio
  obtain ⟨numerator, denominator⟩ := q
  dsimp only at positive ratio ⊢
  -- The search is for the double without its sign.
  have same := absolute_ofMagnitude_magnitudeBits false finite
  have sign := isNegative_ofMagnitude false small.le
  have finite := (isFinite_ofMagnitude false small.le).2 small
  generalize ofMagnitude false d.magnitudeBits = unsigned at same sign finite
  rw [← same] at large ratio ⊢
  have rounded : ofQuotient false numerator denominator = unsigned := by
    rw [← sign]
    refine ofQuotient_eq finite (two_mul_leastNormal_le_one.trans large) positive ?_
    rw [ratio, sub_self, abs_zero]
    linarith
  obtain ⟨c, grid, spelled, close⟩ := close_shortestFrom finite large sign positive ratio
  have digits : extend 0 (Nat.toDigits 10 c) = c := by
    rw [extend_eq_ofDigitChars, Nat.ofDigitChars_ten_toDigits]
  rw [rounded, spelled, value_dropZeros, digits]
  exact close

end EntityQuery.Double
