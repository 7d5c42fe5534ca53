import EntityQuery.Lowering
import EntityQuery.QueryText
import EntityQuery.Proofs.Double.Whole

/-!
# Integers as literals

An integer that a caller gives in query text or as a number of an exchange format is written to SQL
digit by digit if signed sixty-four bits hold it. Any other integer is kept as a double, and what is
written is the shortest decimal of this double: a number that is close to the integer, but hardly
ever the integer itself.
-/

namespace EntityQuery

open ConditionText Numeral

/-! ## Literals -/

namespace Sql.Literal

/-- The rational number that the text of a literal spells, after its sign. -/
def rational? (l : Literal) : Option ℚ :=
  match l.text.toList with
  | '-' :: cs => (Double.rational? cs).map fun q => -q
  | cs => Double.rational? cs

/-- Whether a literal is a number. -/
def isNumber : Literal → Bool
  | integer _ | float _ => true
  | _ => false

/-- A literal spells exactly this integer. -/
def Denotes (l : Literal) (n : ℤ) : Prop := l.rational? = some (n : ℚ)

/-- A literal spells a number that differs from an integer by a small part of it, and not at all if
signed sixty-four bits hold the integer. -/
def Renders (l : Literal) (n : ℤ) : Prop :=
  ∃ q, l.rational? = some q ∧ (-2 ^ 63 ≤ n ∧ n < 2 ^ 63 → q = n) ∧ |q - n| ≤ |(n : ℚ)| / 2 ^ 49

variable {l : Literal} {n : ℤ}

theorem Denotes.renders (h : l.Denotes n) : l.Renders n := by
  refine ⟨n, h, fun _ => rfl, ?_⟩
  rw [sub_self, abs_zero]
  positivity

theorem rational?_of_text {digits : String} {q : ℚ} (text : l.text = digits)
    (spelled : Double.rational? digits.toList = some q) : l.rational? = some q := by
  have signless (cs : List Char) : Double.rational? ('-' :: cs) = none := by
    simp [Double.rational?, Double.decimal?]
  rw [rational?, text]
  split
  · next cs minus =>
      rw [minus, signless] at spelled
      cases spelled
  · exact spelled

theorem rational?_of_minus {digits : String} {q : ℚ} (text : l.text = "-" ++ digits)
    (spelled : Double.rational? digits.toList = some q) : l.rational? = some (-q) := by
  have sign : ("-" ++ digits).toList = '-' :: digits.toList := by simp
  rw [rational?, text, sign]
  exact congrArg (Option.map fun q => -q) spelled

theorem denotes_integer (i : Int64) : (integer i).Denotes i.toInt := by
  obtain nonneg | neg := Int.lt_or_le i.toInt 0 |>.symm
  · have value : ((i.toInt.toNat : ℕ) : ℤ) = i.toInt := Int.toNat_of_nonneg nonneg
    rw [Denotes, ← value, Int.cast_natCast]
    exact rational?_of_text (ofInt64_of_nonneg nonneg) (Double.rational?_toString _)
  · have value : -((i.toInt.natAbs : ℕ) : ℤ) = i.toInt := by omega
    rw [Denotes, ← value, Int.cast_neg, Int.cast_natCast]
    exact rational?_of_minus (ofInt64_of_neg neg) (Double.rational?_toString _)

/-- A finite double is written as the decimal of its absolute value, after its sign. -/
theorem rational?_float {d : Double} (finite : d.isFinite) :
    (float d).rational? = some d.decimalValue := by
  have digits := d.rational?_magnitude
  have text := Double.text_of_isFinite finite
  rw [Double.decimalValue]
  cases sign : d.isNegative with
  | true =>
      rw [sign] at text
      exact rational?_of_minus text digits
  | false =>
      rw [sign] at text
      exact rational?_of_text (text.trans (String.empty_append ..)) digits

/-- A double that is close to an integer is written as a decimal that is close to it. -/
theorem renders_float {d : Double} {negative : Bool} {m : Nat} (near : Double.IsNear 4 negative m d)
    (value : n = if negative then -(m : ℤ) else m) (beyond : ¬ (-2 ^ 63 ≤ n ∧ n < 2 ^ 63)) :
    (float d).Renders n := by
  have large : 2 ^ 63 ≤ m := by
    cases negative <;> simp only [Bool.false_eq_true, if_true, if_false] at value <;> omega
  have large : (2 ^ 63 : ℚ) ≤ m := by exact_mod_cast large
  have one : 1 ≤ d.absolute := by
    have := near.close.le_two_mul (by decide)
    linarith
  have close := (Double.close_magnitude near.finite one).symm.trans near.close
  have few : (1 + 1 / 2 ^ 52 : ℚ) ^ (1 + 4) - 1 ≤ 1 / 2 ^ 49 := by norm_num
  have error : |d.magnitude.value - m| ≤ m / 2 ^ 49 := calc
    |d.magnitude.value - m| ≤ m * ((1 + 1 / 2 ^ 52) ^ (1 + 4) - 1) := close.abs_sub_le
    _ ≤ m * (1 / 2 ^ 49) := mul_le_mul_of_nonneg_left few (by positivity)
    _ = m / 2 ^ 49 := mul_one_div ..
  refine ⟨d.decimalValue, rational?_float near.finite, fun inside => absurd inside beyond, ?_⟩
  rw [Double.decimalValue, near.sign, value]
  cases negative with
  | true =>
      rw [if_pos rfl, if_pos rfl]
      push_cast
      rw [neg_sub_neg, abs_sub_comm, abs_neg, Nat.abs_cast]
      exact error
  | false =>
      rw [if_neg (by decide), if_neg (by decide), Int.cast_natCast, Nat.abs_cast]
      exact error

end Sql.Literal

/-! ## Values -/

namespace Value

/-- The number that a value is written as, if it is one. -/
def number? : Value → Option Sql.Literal
  | integer i => some (.integer i)
  | float d => some (.float d)
  | _ => none

/-- A value is written as a number that stands for an integer. -/
def Renders (v : Value) (n : ℤ) : Prop := ∃ l, v.number? = some l ∧ l.Renders n

variable {n : ℤ}

theorem renders_integer {i : Int64} (h : fit? n = some i) : (integer i).Renders n := by
  rw [← fit?_eq_some h]
  exact ⟨_, rfl, (Sql.Literal.denotes_integer i).renders⟩

/-- An integer of an exchange format is kept as it is, or rounded to a double. -/
theorem renders_ofInt (small : n.natAbs < 2 ^ 64) : (ofInt n).Renders n := by
  unfold ofInt
  split
  · next i fits => exact renders_integer fits
  · next beyond =>
      have outside := fit?_eq_none beyond
      have normal := Double.leastNormal_le_natCast (n := n.natAbs) (by omega)
      have small : (n.natAbs : ℚ) < 2 ^ 64 := by exact_mod_cast small
      have whole : (n.natAbs / (1 : Nat) : ℚ) = n.natAbs := by rw [Nat.cast_one, div_one]
      have near : Double.IsNear 1 (n < 0) (n.natAbs / (1 : Nat)) (.ofInt n) := by
        refine Double.isNear_ofQuotient one_pos ?_ ?_
        · rw [whole]
          exact normal
        · rw [whole]
          refine small.trans ?_
          rw [← zpow_natCast]
          exact zpow_lt_zpow_right₀ one_lt_two (by decide)
      rw [whole] at near
      refine ⟨_, rfl, Sql.Literal.renders_float (near.mono (by decide)) ?_ outside⟩
      simp only [decide_eq_true_eq]
      split <;> omega

end Value

namespace Json

/-- A number of an exchange format spells an integer: it is one of sixty-four bits, signed or not,
or it is what a text of digits is read as. -/
inductive Spells : Json → ℤ → Prop
  | integer {n : ℤ} (low : -2 ^ 63 ≤ n) (high : n < 2 ^ 64) : Spells (integer n) n
  | digits {cs : List Char} {n : ℤ} {j : Json} (spelled : int? cs = some n)
      (read : ofText? (String.ofList cs) = some j) : Spells j n

/-- The value of what digits are read as is written as a number that stands for their integer. -/
theorem renders_of_digits {cs : List Char} {n : ℤ} {j : Json} {v : Value}
    (spelled : int? cs = some n) (text : ofText? (String.ofList cs) = some j)
    (read : Value.ofScalar? j = some v) : v.Renders n := by
  obtain ⟨negative, digits, all, value, read'⟩ := number?_of_ofText? spelled text
  have parsed := number?_whole all read'
  generalize extend 0 digits = m at value parsed
  obtain ⟨small, rfl⟩ | ⟨sign, zero, rfl⟩ | ⟨large, d, rfl, near⟩ := parsed
  · cases read
    rw [← value]
    refine Value.renders_ofInt ?_
    rw [value]
    have bound : wordBound = 2 ^ 64 := rfl
    split <;> omega
  · cases read
    refine ⟨_, rfl, Sql.Literal.Denotes.renders ?_⟩
    rw [sign, zero] at value
    cases value
    have text : (Sql.Literal.float (.zero true)).text = "-" ++ toString 0 := by decide
    refine (Sql.Literal.rational?_of_minus text (Double.rational?_toString 0)).trans ?_
    simp
  · cases read
    refine ⟨_, rfl, Sql.Literal.renders_float near value ?_⟩
    split at value <;> omega

/-- The value of a number that spells an integer is written as a number that stands for it. -/
theorem Spells.renders {j : Json} {n : ℤ} {v : Value} (h : j.Spells n)
    (read : Value.ofScalar? j = some v) : v.Renders n := by
  cases h with
  | integer low high =>
      cases read
      exact Value.renders_ofInt (by omega)
  | digits spelled text => exact renders_of_digits spelled text read

end Json

namespace ConditionText.Expr

/-- The integer that an expression spells as a number, possibly with a sign. -/
def integer? : Expr → Option ℤ
  | .constant (.number digits _) => (nat? digits.toList).map fun n => Int.ofNat n
  | .signed .plus (.constant (.number digits _)) => (nat? digits.toList).map fun n => Int.ofNat n
  | .signed .minus (.constant (.number digits _)) => (nat? digits.toList).map fun n => -Int.ofNat n
  | _ => none

end ConditionText.Expr

namespace QueryText

/-- The value of digits that spell an integer is written as a number that stands for it. -/
theorem renders_of_number? {digits : String} {negative : Bool} {m : Nat} {v : Value}
    (spelled : nat? digits.toList = some m) (read : number? digits negative = some v)
    (finite : isInfinite v = false) : v.Renders (if negative then -(m : ℤ) else m) := by
  obtain ⟨nonempty, all, rfl⟩ := nat?_eq_some spelled
  have integer : int? (if negative then '-' :: digits.toList else digits.toList) =
      some (if negative then -(extend 0 digits.toList : ℤ) else extend 0 digits.toList) := by
    cases negative with
    | true =>
        rw [if_pos rfl, if_pos rfl, int?, spelled]
        rfl
    | false =>
        rw [if_neg (by decide), if_neg (by decide), int?_of_isDigit all, spelled]
        rfl
  rw [number?, int64?, integer, Option.bind_some] at read
  split at read
  · next i fits =>
      cases read
      exact Value.renders_integer fits
  · next beyond =>
      rw [Double.ofText?_of_isDigit nonempty all] at read
      cases read
      have outside := fit?_eq_none beyond
      generalize extend 0 digits.toList = m at finite outside ⊢
      have some : 0 < m := by
        split at outside <;> omega
      have unit : (m * 10 ^ (0 : ℤ) : ℚ) = m := by rw [zpow_zero, mul_one]
      have normal := Double.leastNormal_le_natCast some
      rw [← unit] at normal
      have finite : (Double.ofDecimal negative m 0).isFinite := by
        simpa [isInfinite] using finite
      obtain ⟨close, sign⟩ := Double.close_ofDecimal normal finite
      rw [unit] at close
      have near : Double.IsNear 1 negative m (.ofDecimal negative m 0) := ⟨finite, sign, close⟩
      exact ⟨_, rfl, Sql.Literal.renders_float (near.mono (by decide)) rfl outside⟩

/-- The value of an expression that spells an integer is written as a number that stands for it. -/
theorem renders_of_value? {e : Expr} {n : ℤ} {v : Value} (spelled : e.integer? = some n)
    (read : value? e = some v) (finite : isInfinite v = false) : v.Renders n := by
  unfold Expr.integer? at spelled
  split at spelled
  · obtain ⟨m, digits, rfl⟩ := Option.map_eq_some_iff.1 spelled
    exact renders_of_number? digits read finite
  · obtain ⟨m, digits, rfl⟩ := Option.map_eq_some_iff.1 spelled
    exact renders_of_number? digits read finite
  · obtain ⟨m, digits, rfl⟩ := Option.map_eq_some_iff.1 spelled
    exact renders_of_number? digits read finite
  · cases spelled

end QueryText

/-! ## Operands -/

/-- What a caller compares a field with: an expression of query text, or a value of an exchange
format. -/
inductive Operand where
  | ofText (e : Expr)
  | ofJson (j : Json)

namespace Operand

/-- Whether an operand is a number. -/
def isNumber : Operand → Bool
  | ofText (.constant (.number _ _)) => true
  | ofText (.signed .plus (.constant (.number _ _))) => true
  | ofText (.signed .minus (.constant (.number _ _))) => true
  | ofJson (.integer _) => true
  | ofJson (.real _) => true
  | _ => false

/-- The integer that an operand spells in query text. -/
def integer? : Operand → Option ℤ
  | ofText e => e.integer?
  | ofJson _ => none

/-- An operand is a number that spells an integer. -/
def Spells (o : Operand) (n : ℤ) : Prop :=
  match o with
  | ofText e => e.integer? = some n
  | ofJson j => j.Spells n

/-- An operand is read as a value. -/
def Reads : Operand → Value → Prop
  | ofText e, v => QueryText.value? e = some v ∧ QueryText.isInfinite v = false
  | ofJson j, v => Value.ofScalar? j = some v

variable {o : Operand} {v : Value} {n : ℤ}

theorem Reads.renders (h : o.Reads v) (spelled : o.Spells n) : v.Renders n := by
  cases o with
  | ofText e => exact QueryText.renders_of_value? spelled h.1 h.2
  | ofJson j => exact spelled.renders h

theorem spells_of_integer? (h : o.integer? = some n) : o.Spells n := by
  cases o with
  | ofText e => exact h
  | ofJson j => cases h

theorem isSome_number?_of_digits {digits : String} {negative : Bool}
    (read : QueryText.number? digits negative = some v) : v.number?.isSome := by
  rw [QueryText.number?] at read
  split at read
  · cases read
    rfl
  · obtain ⟨d, -, rfl⟩ := Option.map_eq_some_iff.1 read
    rfl

/-- A number is read as a number, and nothing else is. -/
theorem Reads.isNumber_eq (h : o.Reads v) : o.isNumber = v.number?.isSome := by
  cases o with
  | ofText e =>
      obtain ⟨read, -⟩ := h
      unfold QueryText.value? at read
      split at read
      all_goals
        first
          | exact (isSome_number?_of_digits read).symm
          | cases read <;> rfl
  | ofJson j =>
      cases j with
      | integer i =>
          cases h
          unfold Value.ofInt
          split <;> rfl
      | array _ | object _ => cases h
      | _ =>
          cases h
          rfl

/-- Operands that are read as the leaves of a value. -/
theorem renders_of_reads {os : List Operand} {vs : List Value}
    (read : List.Forall₂ Reads os vs) :
    List.Forall₂ (fun o l => ∀ n, o.Spells n → l.Renders n) (os.filter isNumber)
      (vs.filterMap Value.number?) := by
  induction read with
  | nil => exact .nil
  | @cons o v os vs first further ih =>
      have kind := first.isNumber_eq
      cases number : v.number? with
      | none =>
          rw [number] at kind
          rw [List.filter_cons_of_neg (by simpa using kind), List.filterMap_cons_none number]
          exact ih
      | some l =>
          rw [number] at kind
          rw [List.filter_cons_of_pos kind, List.filterMap_cons_some number]
          refine .cons (fun n spelled => ?_) ih
          obtain ⟨l', number', renders⟩ := first.renders spelled
          cases number.symm.trans number'
          exact renders

end Operand

end EntityQuery
