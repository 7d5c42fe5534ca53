import Mathlib.Algebra.Field.Rat
import Mathlib.Data.Rat.Cast.Defs
import EntityQuery.Double.Reader
import EntityQuery.Double.Shortest
import EntityQuery.Proofs.Numeral
import EntityQuery.Proofs.Reading.Spelling

/-!
# The decimals of doubles

A finite double is written as its shortest decimal, in digits with at most one point. These digits
spell exactly that decimal: the zeros that fill the places up to the point, and those behind it,
neither add to its value nor move its point.
-/

namespace EntityQuery.Double

open ConditionText Numeral

/-- The rational number that an unsigned decimal text spells. -/
def rational? (cs : List Char) : Option ℚ :=
  (decimal? cs).map fun (digits, exponent) => (digits : ℚ) * 10 ^ exponent

/-- The rational number that a decimal stands for. -/
def Decimal.value (d : Decimal) : ℚ :=
  (extend 0 d.digits : ℚ) * 10 ^ (d.point - d.digits.length)

/-! ## Reading digits -/

variable {whole fraction : List Char}

theorem rational?_whole (nonempty : whole ≠ []) (digits : whole.all Char.isDigit) :
    rational? whole = some (extend 0 whole : ℚ) := by
  have taken : whole.takeWhile Char.isDigit = whole := by
    simpa using digits
  have dropped : whole.dropWhile Char.isDigit = [] := by
    simpa using digits
  simp [rational?, decimal?, taken, dropped, nonempty, exponent?]

theorem rational?_toString (n : Nat) : rational? (toString n).toList = some (n : ℚ) := by
  rw [Nat.toString_eq_ofList_toDigits, String.toList_ofList,
    rational?_whole Nat.toDigits_ne_nil (toDigits_all_isDigit n), extend_eq_ofDigitChars,
    Nat.ofDigitChars_ten_toDigits]

theorem rational?_fraction (nonempty : whole ≠ []) (digits : whole.all Char.isDigit)
    (further : fraction.all Char.isDigit) :
    rational? (whole ++ '.' :: fraction) =
      some ((extend 0 (whole ++ fraction) : ℚ) * 10 ^ (-(fraction.length : ℤ))) := by
  have taken : (whole ++ '.' :: fraction).takeWhile Char.isDigit = whole := by
    rw [List.takeWhile_append_of_pos (List.all_eq_true.1 digits)]
    simp
  have dropped : (whole ++ '.' :: fraction).dropWhile Char.isDigit = '.' :: fraction := by
    rw [List.dropWhile_append_of_pos (List.all_eq_true.1 digits)]
    simp
  have taken' : fraction.takeWhile Char.isDigit = fraction := by
    simpa using further
  have dropped' : fraction.dropWhile Char.isDigit = [] := by
    simpa using further
  simp [rational?, decimal?, taken, dropped, taken', dropped', nonempty, exponent?]

theorem extend_replicate_zero (n read : Nat) :
    extend read (List.replicate n '0') = 10 ^ n * read := by
  rw [extend_eq_ofDigitChars, Nat.ofDigitChars_replicate_zero]

theorem extend_append (a b : List Char) (read : Nat) :
    extend read (a ++ b) = extend (extend read a) b := by
  simp only [extend_eq_ofDigitChars, Nat.ofDigitChars_append]

/-! ## The positional notation -/

theorem replicate_zero_all_isDigit (n : Nat) : (List.replicate n '0').all Char.isDigit := by
  rw [List.all_eq_true]
  intro c mem
  rw [List.eq_of_mem_replicate mem]
  rfl

variable {d : Decimal}

/-- Characters are a plain number and spell a value. -/
def Spells (cs : List Char) (q : ℚ) : Prop := IsPlainNumber cs ∧ rational? cs = some q

namespace Decimal

/-- A decimal below one is written with a zero in front of the point. -/
theorem spells_below_one (digits : d.digits.all Char.isDigit) (small : d.point ≤ 0) :
    Spells ('0' :: '.' :: (List.replicate (-d.point).toNat '0' ++ d.digits)) d.value := by
  have further : (List.replicate (-d.point).toNat '0' ++ d.digits).all Char.isDigit := by
    rw [List.all_append, replicate_zero_all_isDigit, digits]
    rfl
  refine ⟨⟨['0'], _, rfl, by simp, by decide, .inr ⟨_, rfl, further⟩⟩, ?_⟩
  have spelled : extend 0 (['0'] ++ (List.replicate (-d.point).toNat '0' ++ d.digits)) =
      extend 0 d.digits := by
    rw [extend_append, extend_append, extend_replicate_zero]
    rfl
  refine (rational?_fraction (List.cons_ne_nil '0' []) (by decide) further).trans ?_
  rw [spelled, Decimal.value]
  congr 3
  simp only [List.length_append, List.length_replicate]
  omega

/-- A whole number is written without a point, with zeros up to the ones. -/
theorem spells_whole (digits : d.digits.all Char.isDigit) (large : 0 < d.point)
    (many : d.digits.length ≤ d.point.toNat) :
    Spells (d.digits ++ List.replicate (d.point.toNat - d.digits.length) '0') d.value := by
  have all : (d.digits ++ List.replicate (d.point.toNat - d.digits.length) '0').all
      Char.isDigit := by
    rw [List.all_append, replicate_zero_all_isDigit, digits]
    rfl
  have nonempty : d.digits ++ List.replicate (d.point.toNat - d.digits.length) '0' ≠ [] := by
    intro empty
    have := congrArg List.length empty
    simp only [List.length_append, List.length_replicate, List.length_nil] at this
    omega
  refine ⟨.of_digits nonempty all, ?_⟩
  rw [rational?_whole nonempty all, extend_append, extend_replicate_zero, Decimal.value]
  have places : d.point - d.digits.length = ((d.point.toNat - d.digits.length : ℕ) : ℤ) := by
    omega
  rw [places, zpow_natCast]
  push_cast
  rw [mul_comm]

/-- Any other decimal has its point between its digits. -/
theorem spells_mixed (digits : d.digits.all Char.isDigit) (large : 0 < d.point)
    (few : d.point.toNat < d.digits.length) :
    Spells (d.digits.take d.point.toNat ++ '.' :: d.digits.drop d.point.toNat) d.value := by
  have front : (d.digits.take d.point.toNat).all Char.isDigit :=
    List.all_eq_true.2 fun c mem => List.all_eq_true.1 digits c (List.mem_of_mem_take mem)
  have back : (d.digits.drop d.point.toNat).all Char.isDigit :=
    List.all_eq_true.2 fun c mem => List.all_eq_true.1 digits c (List.mem_of_mem_drop mem)
  have nonempty : d.digits.take d.point.toNat ≠ [] := by
    intro empty
    have := congrArg List.length empty
    simp only [List.length_take, List.length_nil] at this
    omega
  refine ⟨⟨_, _, rfl, nonempty, front, .inr ⟨_, rfl, back⟩⟩, ?_⟩
  rw [rational?_fraction nonempty front back, List.take_append_drop, Decimal.value]
  congr 3
  rw [List.length_drop]
  omega

/-- The positional notation of a decimal spells its value. -/
theorem positional_spec (digits : d.digits.all Char.isDigit) : Spells d.positional d.value := by
  unfold Decimal.positional
  dsimp only
  split
  · next small => exact spells_below_one digits small
  · split
    · next large many => exact spells_whole digits (by omega) many
    · next large few => exact spells_mixed digits (by omega) (by omega)

end Decimal

/-! ## The text of a double -/

theorem shortestFrom_all_isDigit (d : Double) (numerator denominator : Nat) (exponent : Int)
    (count more : Nat) :
    (shortestFrom d numerator denominator exponent count more).digits.all Char.isDigit := by
  induction more generalizing count with
  | zero => rfl
  | succ more ih =>
      unfold shortestFrom
      split
      · exact toDigits_all_isDigit _
      · exact ih _

theorem shortest_all_isDigit (mantissa : Nat) (scale : Int) :
    (shortest mantissa scale).digits.all Char.isDigit := by
  have all {digits : List Char} (h : digits.all Char.isDigit) :
      (dropZeros digits).all Char.isDigit := by
    rw [List.all_eq_true] at h ⊢
    intro c mem
    have among : c ∈ digits.reverse := (List.dropWhile_suffix _).subset (List.mem_reverse.1 mem)
    exact h c (List.mem_reverse.1 among)
  exact all (shortestFrom_all_isDigit _ _ _ _ 1 17)

/-- A finite double stands for a number of its sign. -/
theorem form_of_isFinite {d : Double} (h : d.isFinite) :
    ∃ mantissa scale, d.form = .finite d.isNegative mantissa scale := by
  have field : d.magnitudeBits / Nat.pow 2 52 ≠ 0x7FF := by
    have small : d.magnitudeBits < infiniteBits := of_decide_eq_true h
    exact Nat.ne_of_lt ((Nat.div_lt_iff_lt_mul (by decide)).2 small)
  unfold form
  rw [if_neg field]
  split
  · exact ⟨_, _, rfl⟩
  · exact ⟨_, _, rfl⟩

/-- The decimal of the absolute value of a finite double: its shortest one, or zero. -/
def magnitude (d : Double) : Decimal :=
  match d.form with
  | .finite _ mantissa scale => if mantissa = 0 then ⟨['0'], 1⟩ else shortest mantissa scale
  | _ => ⟨['0'], 1⟩

/-- The rational number that the text of a finite double spells: its shortest decimal. -/
def decimalValue (d : Double) : ℚ :=
  if d.isNegative then -d.magnitude.value else d.magnitude.value

theorem magnitude_all_isDigit (d : Double) : d.magnitude.digits.all Char.isDigit := by
  unfold magnitude
  split
  · split
    · rfl
    · exact shortest_all_isDigit _ _
  · rfl

theorem rational?_magnitude (d : Double) :
    rational? (String.ofList d.magnitude.positional).toList = some d.magnitude.value := by
  rw [String.toList_ofList]
  exact (Decimal.positional_spec d.magnitude_all_isDigit).2

/-- A finite double is written as its sign and its magnitude. -/
theorem text_of_isFinite {d : Double} (h : d.isFinite) :
    d.text = (if d.isNegative then "-" else "") ++ String.ofList d.magnitude.positional := by
  obtain ⟨mantissa, scale, form⟩ := form_of_isFinite h
  have digits : (if mantissa = 0 then ['0'] else (shortest mantissa scale).positional) =
      d.magnitude.positional := by
    simp only [magnitude, form]
    split <;> rfl
  rw [text, form]
  dsimp only
  rw [digits]
  apply String.toList_injective
  cases d.isNegative <;> simp

end EntityQuery.Double
