import EntityQuery.Json.Reader
import EntityQuery.Proofs.Double.Shortest

/-!
# Whole numbers as doubles

Whole numbers past sixty-four bits are read as doubles: in query text with one rounding, in exchange
text by their first digits and a power of ten, which are rounded apart and once more when they are
multiplied. All these errors together are a small part of the number.
-/

namespace EntityQuery

namespace Double

open Numeral

variable {a b d : Double} {negative : Bool} {n numerator denominator : Nat}

/-- A finite double of a sign whose absolute value is some roundings away from a number. -/
structure IsNear (roundings : Nat) (negative : Bool) (x : ℚ) (d : Double) : Prop where
  finite : d.isFinite
  sign : d.isNegative = negative
  close : Close roundings d.absolute x

theorem IsNear.mono {x : ℚ} {k l : Nat} (h : IsNear k negative x d) (more : k ≤ l) :
    IsNear l negative x d :=
  ⟨h.finite, h.sign, h.close.mono more⟩

theorem isFinite_of_form {negative : Bool} {mantissa : Nat} {scale : Int}
    (form_eq : d.form = .finite negative mantissa scale) : d.isFinite := by
  have two : Nat.pow 2 52 = 2 ^ 52 := rfl
  have bound : d.magnitudeBits < 2 ^ 63 := Nat.mod_lt _ (by decide)
  rw [isFinite, decide_eq_true_eq, infiniteBits_eq]
  by_contra large
  have field : d.magnitudeBits / 2 ^ 52 = 0x7FF := by omega
  rw [form, two, if_pos field] at form_eq
  split at form_eq <;> cases form_eq

/-- A quotient well within the range of doubles is rounded to a finite one. -/
theorem isNear_ofQuotient (positive : 0 < denominator)
    (normal : leastNormal ≤ numerator / denominator)
    (small : (numerator / denominator : ℚ) < 2 ^ (1023 : ℤ)) :
    IsNear 1 negative (numerator / denominator) (ofQuotient negative numerator denominator) := by
  obtain ⟨k, m, low, high, large, near, rounded⟩ := ofQuotient_of_normal negative positive normal
  have place := large.trans_lt small
  rw [← zpow_natCast, ← zpow_add₀ two_ne_zero, zpow_lt_zpow_iff_right₀ one_lt_two, leastScale]
    at place
  have inside : k * 2 ^ 52 + m < infiniteBits := by
    rw [infiniteBits_eq]
    omega
  have finite : (ofQuotient negative numerator denominator).isFinite := by
    rw [rounded, Nat.min_eq_left inside.le]
    exact (isFinite_ofMagnitude negative inside.le).2 inside
  obtain ⟨close, sign⟩ := close_ofQuotient positive normal finite
  exact ⟨finite, sign, close⟩

/-- A finite product has finite factors, and it is one rounding away from the exact one. -/
theorem close_mul (finite : (mul a b).isFinite)
    (normal : a.isFinite → b.isFinite → leastNormal ≤ a.absolute * b.absolute) :
    a.isFinite ∧ b.isFinite ∧ Close 1 (mul a b).absolute (a.absolute * b.absolute) := by
  rw [mul] at finite ⊢
  split at finite
  · next s m q t n r left right =>
      have left_finite := isFinite_of_form left
      have right_finite := isFinite_of_form right
      refine ⟨left_finite, right_finite, ?_⟩
      have value := timesTwoPow_div (m * n) 1 (q + r)
      have exact_eq : a.absolute * b.absolute = (m * n : Nat) / (1 : Nat) * 2 ^ (q + r) := by
        rw [absolute, absolute, left, right, zpow_add₀ two_ne_zero]
        push_cast
        ring
      rw [← exact_eq] at value
      have reached := normal left_finite right_finite
      rw [← value] at reached
      rw [← value]
      exact (close_ofQuotient (timesTwoPow_pos _ one_pos (q + r)) reached finite).1
  · cases finite

theorem close_tenPow (finite : (tenPow n).isFinite) : Close 1 (tenPow n).absolute (10 ^ n) := by
  have unit : ((1 : Nat) : ℚ) * 10 ^ (n : ℤ) = 10 ^ n := by
    rw [Nat.cast_one, one_mul, zpow_natCast]
  have normal : leastNormal ≤ ((1 : Nat) : ℚ) * 10 ^ (n : ℤ) := by
    rw [unit]
    exact_mod_cast leastNormal_le_natCast (Nat.pow_pos (n := n) (by decide : 0 < 10))
  rw [← unit]
  exact (close_ofDecimal normal finite).1

theorem magnitudeBits_ne_zero (positive : 0 < d.absolute) : d.magnitudeBits ≠ 0 := by
  intro none
  have two : Nat.pow 2 52 = 2 ^ 52 := rfl
  have form : d.form = .finite d.isNegative 0 leastScale := by
    rw [form, none]
    rfl
  rw [absolute, form] at positive
  simp at positive

theorem isNear_of_sign {x : ℚ} {roundings : Nat} (finite : d.isFinite)
    (close : Close roundings d.absolute x) (negative : Bool) :
    IsNear roundings negative x (ofMagnitude negative d.magnitudeBits) := by
  have small := magnitudeBits_lt finite
  refine ⟨(isFinite_ofMagnitude negative small.le).2 small,
    isNegative_ofMagnitude negative small.le, ?_⟩
  rw [absolute_ofMagnitude_magnitudeBits negative finite]
  exact close

/-- Digits are rounded, a power of ten is, and so is their product. -/
theorem isNear_scaled (positive : 0 < n) {exponent : Nat}
    (scaled : scaled? negative n exponent = some d) : IsNear 3 negative (n * 10 ^ exponent) d := by
  have whole : (n / (1 : Nat) : ℚ) = n := by rw [Nat.cast_one, div_one]
  have normal := leastNormal_le_natCast positive
  rw [← whole] at normal
  have rounded (finite : (ofQuotient false n 1).isFinite) :
      Close 1 (ofQuotient false n 1).absolute n := by
    have close := (close_ofQuotient one_pos normal finite).1
    rwa [whole] at close
  have nonneg : ¬ (exponent : ℤ) < 0 := by omega
  rw [scaled?, if_neg nonneg] at scaled
  split at scaled
  · split at scaled
    · next zero =>
        have finite : (ofQuotient false n 1).isFinite := by
          rw [isFinite, zero]
          rfl
        exact absurd zero (magnitudeBits_ne_zero (rounded finite).1)
    · cases scaled
  · obtain ⟨product, filtered, rfl⟩ := Option.map_eq_some_iff.1 scaled
    obtain ⟨multiplied, finite⟩ := Option.filter_eq_some_iff.1 filtered
    cases multiplied
    rw [Int.toNat_natCast] at finite ⊢
    have factors (left : (ofQuotient false n 1).isFinite) (right : (tenPow exponent).isFinite) :=
      (rounded left).mul (close_tenPow right)
    obtain ⟨left, right, close⟩ := close_mul finite fun left right => by
      have := (factors left right).le_two_mul (by decide)
      have one : (1 : ℚ) ≤ n * 10 ^ exponent := by
        exact_mod_cast Nat.mul_pos positive (Nat.pow_pos (by decide))
      linarith [two_mul_leastNormal_le_one]
    exact isNear_of_sign finite (close.trans (factors left right)) negative

theorem toLower_of_isDigit {c : Char} (digit : c.isDigit) : c.toLower = c := by
  rw [Char.isDigit, Bool.and_eq_true, decide_eq_true_eq, decide_eq_true_eq] at digit
  refine dif_neg ?_
  rintro ⟨letter, -⟩
  exact absurd (UInt32.le_trans letter digit.2) (by decide)

theorem unsigned?_of_isDigit {cs : List Char} (nonempty : cs ≠ []) (digits : cs.all Char.isDigit) :
    unsigned? negative cs = some (ofDecimal negative (extend 0 cs) 0) := by
  have lower : cs.map Char.toLower = cs := by
    rw [List.map_congr_left fun c mem => toLower_of_isDigit (List.all_eq_true.1 digits c mem)]
    exact List.map_id cs
  have word {word : String} {c : Char} {rest : List Char} (spelled : word.toList = c :: rest)
      (letter : c.isDigit = false) : String.ofList cs ≠ word := by
    rintro rfl
    rw [String.toList_ofList] at spelled
    rw [spelled, List.all_cons, letter] at digits
    cases digits
  have decimal : decimal? cs = some (extend 0 cs, 0) := by
    have taken : cs.takeWhile Char.isDigit = cs := by
      simpa using digits
    have dropped : cs.dropWhile Char.isDigit = [] := by
      simpa using digits
    simp [decimal?, taken, dropped, nonempty, exponent?]
  rw [unsigned?, lower]
  split
  · next eq => exact absurd eq (word rfl rfl)
  · next eq => exact absurd eq (word rfl rfl)
  · next eq => exact absurd eq (word rfl rfl)
  · rw [decimal]
    rfl

/-- The digits of a number in query text, with a sign in front, are rounded once. -/
theorem ofText?_of_isDigit {cs : List Char} (nonempty : cs ≠ []) (digits : cs.all Char.isDigit) :
    ofText? (if negative then '-' :: cs else cs) = some (ofDecimal negative (extend 0 cs) 0) := by
  cases negative with
  | true => exact unsigned?_of_isDigit nonempty digits
  | false =>
      refine Eq.trans ?_ (unsigned?_of_isDigit nonempty digits)
      rw [if_neg (by decide)]
      unfold ofText?
      split
      · cases digits
      · cases digits
      · rfl

end Double

namespace Json

open Numeral

/-- The digits that fit sixty-four bits are the first ones; if there are more, those that fit
already make a large number. -/
theorem wordDigits_spec {read : Nat} {cs : List Char} (fits : read < wordBound)
    (digits : cs.all Char.isDigit) :
    ∃ r used dropped, wordDigits read cs = (r, used, dropped) ∧ r < wordBound ∧
      r * 10 ^ dropped ≤ extend read cs ∧ extend read cs < (r + 1) * 10 ^ dropped ∧
      (dropped ≠ 0 → 2 ^ 60 ≤ r) := by
  induction cs generalizing read with
  | nil =>
      obtain ⟨below, above⟩ := extend_bounds read digits
      exact ⟨read, 0, 0, wordDigits.eq_1 read, fits, below, above, fun some => absurd rfl some⟩
  | cons c cs ih =>
      have each := digits
      rw [List.all_cons, Bool.and_eq_true] at each
      by_cases next : 10 * read + (c.toNat - '0'.toNat) < wordBound
      · obtain ⟨r, used, dropped, taken, small, below, above, large⟩ := ih next each.2
        rw [← extend_cons] at below above
        refine ⟨r, used + 1, dropped, ?_, small, below, above, large⟩
        rw [wordDigits.eq_2, if_pos next, taken]
      · obtain ⟨below, above⟩ := extend_bounds read digits
        refine ⟨read, 0, cs.length + 1, ?_, fits, below, above, fun _ => ?_⟩
        · rw [wordDigits.eq_2, if_neg next]
        · have digit := digit_le each.1
          have bound : wordBound = 2 ^ 64 := rfl
          rw [bound] at next
          omega

/-- A number that only its first digits are taken from is close to these with zeros behind them. -/
theorem close_of_digits {r n dropped : Nat} (large : 2 ^ 60 ≤ r) (below : r * 10 ^ dropped ≤ n)
    (above : n < (r + 1) * 10 ^ dropped) : Double.Close 1 (r * 10 ^ dropped) n := by
  have large : (2 ^ 60 : ℚ) ≤ r := by exact_mod_cast large
  have below : (r * 10 ^ dropped : ℚ) ≤ n := by exact_mod_cast below
  have above : (n : ℚ) < (r + 1) * 10 ^ dropped := by exact_mod_cast above
  have unit : (1 : ℚ) ≤ 10 ^ dropped := one_le_pow₀ (by norm_num)
  have product : (2 ^ 60 : ℚ) * 10 ^ dropped ≤ r * 10 ^ dropped :=
    mul_le_mul_of_nonneg_right large (by positivity)
  refine .of_abs_sub_le (by linarith) ?_
  rw [abs_sub_comm, abs_of_nonneg (by linarith)]
  linarith

/-- A whole number is read as an integer where sixty-four bits hold it; the negative zero is a
double, and so are the others, with all their errors together. -/
theorem number?_whole {negative : Bool} {cs : List Char} {j : Json} (digits : cs.all Char.isDigit)
    (read : number? negative cs none none = some j) :
    (extend 0 cs < wordBound ∧
      j = .integer (if negative then -(extend 0 cs : Int) else extend 0 cs)) ∨
    (negative ∧ extend 0 cs = 0 ∧ j = .real (.zero true)) ∨
    (2 ^ 63 < extend 0 cs ∧ ∃ d, j = .real d ∧ Double.IsNear 4 negative (extend 0 cs) d) := by
  obtain ⟨r, used, dropped, taken, small, below, above, large⟩ :=
    wordDigits_spec (show 0 < wordBound by decide) digits
  generalize extend 0 cs = n at below above ⊢
  rw [number?, taken] at read
  dsimp only at read
  split at read
  · next fits =>
      obtain ⟨rfl, -⟩ : dropped = 0 ∧ _ := by simpa using fits
      obtain rfl : r = n := by omega
      cases read
      exact .inl ⟨small, rfl⟩
  · next beyond =>
      obtain ⟨d, scaled, rfl⟩ := Option.map_eq_some_iff.1 read
      right
      by_cases complete : dropped = 0
      · subst complete
        obtain rfl : r = n := by omega
        obtain ⟨rfl, zero | many⟩ : negative = true ∧ (r = 0 ∨ 2 ^ 63 < r) := by
          simpa [or_iff_not_imp_left] using beyond
        · subst zero
          have rounded : Double.scaled? true 0 (0 : Nat) = some (.zero true) := by decide
          rw [rounded] at scaled
          cases scaled
          exact .inl ⟨rfl, rfl, rfl⟩
        · refine .inr ⟨many, d, rfl, ?_⟩
          have near := Double.isNear_scaled (by omega) scaled
          rw [pow_zero, mul_one] at near
          exact near.mono (by decide)
      · have large := large complete
        have near := Double.isNear_scaled (by omega) scaled
        have close := near.close.trans (close_of_digits large below above)
        refine .inr ⟨?_, d, rfl, ⟨near.finite, near.sign, close⟩⟩
        have further : 10 ^ 1 ≤ 10 ^ dropped := Nat.pow_le_pow_right (by decide) (by omega)
        have := Nat.mul_le_mul large further
        omega

theorem wholePart?_of_isDigit {cs whole rest : List Char} (digits : cs.all Char.isDigit)
    (read : wholePart? cs = some (whole, rest)) : whole = cs ∧ rest = [] := by
  have taken : cs.takeWhile Char.isDigit = cs := by
    simpa using digits
  have dropped : cs.dropWhile Char.isDigit = [] := by
    simpa using digits
  rw [wholePart?, taken, dropped] at read
  split at read
  · cases read
  · cases read
  · cases read
    exact ⟨rfl, rfl⟩

theorem number?_of_numberTail? {negative : Bool} {cs rest : List Char} {j : Json}
    (digits : cs.all Char.isDigit) (read : numberTail? negative cs = some (j, rest)) :
    number? negative cs none none = some j := by
  obtain ⟨⟨whole, behind⟩, parts, read⟩ := Option.bind_eq_some_iff.1 read
  obtain ⟨rfl, rfl⟩ := wholePart?_of_isDigit digits parts
  have parsed : (number? negative whole none none).bind (fun n => some (n, [])) =
      some (j, rest) := read
  obtain ⟨n, found, same⟩ := Option.bind_eq_some_iff.1 parsed
  cases same
  exact found

/-- A text that starts with a digit is read as a number without a sign. -/
theorem value_of_isDigit {levels : Nat} {c : Char} {cs : List Char} (digit : c.isDigit) :
    value levels (c :: cs) = numberTail? false (c :: cs) := by
  have other {d : Char} (letter : d.isDigit = false) : c ≠ d := by
    rintro rfl
    cases digit.symm.trans letter
  have blank : isSpace c = false := by
    simp only [isSpace, Bool.or_eq_false_iff, beq_eq_false_iff_ne]
    exact ⟨⟨⟨other (by decide), other (by decide)⟩, other (by decide)⟩, other (by decide)⟩
  have whole : skipSpace (c :: cs) = c :: cs := by
    rw [skipSpace, List.dropWhile_cons, blank]
    rfl
  rw [value.eq_def]
  dsimp only
  rw [whole]
  split <;>
    first
      | exact absurd (List.cons.inj ‹_›).1 (other (by decide))
      | rfl

/-- The text of an integer is a number after its sign, without a fraction and an exponent. -/
theorem number?_of_ofText? {cs : List Char} {i : Int} {j : Json} (spelled : int? cs = some i)
    (read : ofText? (String.ofList cs) = some j) :
    ∃ (negative : Bool) (digits : List Char), digits.all Char.isDigit ∧
      i = (if negative then -(extend 0 digits : Int) else extend 0 digits) ∧
      number? negative digits none none = some j := by
  obtain ⟨negative, digits, nonempty, all, rfl, shape⟩ := int?_eq_some spelled
  rw [ofText?, String.toList_ofList] at read
  split at read
  · next v rest valued =>
      obtain ⟨-, rfl⟩ : _ ∧ v = j := by simpa using read
      refine ⟨negative, digits, all, rfl, ?_⟩
      obtain rfl | rfl := shape
      · cases valued
      · cases negative with
        | true => exact number?_of_numberTail? all valued
        | false =>
            obtain ⟨c, cs, rfl⟩ := List.exists_cons_of_ne_nil nonempty
            have digit := all
            rw [List.all_cons, Bool.and_eq_true] at digit
            exact number?_of_numberTail? all ((value_of_isDigit digit.1).symm.trans valued)
  · cases read

end Json

end EntityQuery
