import EntityQuery.Proofs.Decimal
import EntityQuery.Proofs.Reading.Written
import EntityQuery.QueryText

/-!
# Written literals and operators

The display of a scalar is the literal of this scalar. A negative number is a literal with a minus
sign in front, which is a reading of its own; all others are single tokens.
-/

namespace EntityQuery

namespace Value

/-- Whether a value is a scalar that has a literal: a float has one if it is finite. -/
def isScalar : Value → Bool
  | null | bool _ | integer _ | text _ => true
  | float d => d.isFinite
  | list _ => false

mutual

/-- How many readings are nested inside the one of a value: a sign is followed by another one. -/
def nesting : Value → Nat
  | integer i => if i.toInt < 0 then 1 else 0
  | float d => if d.isNegative then 1 else 0
  | list items => nestingAll items
  | null | bool _ | text _ => 0

/-- The deepest nesting of the items of a list. -/
def nestingAll : List Value → Nat
  | [] => 0
  | item :: rest => max item.nesting (nestingAll rest)

end

theorem nesting_le_nestingAll {v : Value} {items : List Value} (mem : v ∈ items) :
    v.nesting ≤ nestingAll items := by
  induction items with
  | nil => cases mem
  | cons item rest ih =>
      rw [nestingAll]
      obtain rfl | mem := List.mem_cons.1 mem
      · exact Nat.le_max_left _ _
      · exact Nat.le_trans (ih mem) (Nat.le_max_right _ _)

end Value

namespace ConditionText

/-- The literals of the scalars, as they are read. -/
inductive LiteralOf : Value → Expr → Prop
  | null : LiteralOf .null (.constant .null)
  | bool (b : Bool) : LiteralOf (.bool b) (.constant (.boolean b))
  | natural {i : Int64} (nonneg : 0 ≤ i.toInt) :
      LiteralOf (.integer i) (.constant (.number (toString i.toInt.toNat) false))
  | negative {i : Int64} (neg : i.toInt < 0) :
      LiteralOf (.integer i)
        (.signed .minus (.constant (.number (toString i.toInt.natAbs) false)))
  | decimal {d : Double} (nonneg : d.isNegative = false) :
      LiteralOf (.float d)
        (.constant (.number (String.ofList d.magnitude.positional) false))
  | negativeDecimal {d : Double} (neg : d.isNegative = true) :
      LiteralOf (.float d)
        (.signed .minus (.constant (.number (String.ofList d.magnitude.positional) false)))
  | text (s : String) : LiteralOf (.text s) (.constant (.plainText s))

theorem isPlainNumber_toString (n : Nat) : IsPlainNumber (toString n).toList := by
  rw [Nat.toString_eq_ofList_toDigits, String.toList_ofList]
  exact .of_digits Nat.toDigits_ne_nil (Numeral.toDigits_all_isDigit n)

theorem written_integer (i : Int64) :
    WrittenOperand (Value.integer i).nesting (Value.integer i).display
      (LiteralOf (.integer i)) := by
  rw [Value.display, Value.nesting]
  obtain nonneg | neg := (Int.lt_or_le i.toInt 0).symm
  · rw [Numeral.ofInt64_of_nonneg nonneg]
    refine (WrittenOperand.number (isPlainNumber_toString _)).mono (Nat.zero_le _) ?_
    rintro _ rfl
    exact .natural nonneg
  · rw [Numeral.ofInt64_of_neg neg, if_pos neg]
    refine (WrittenOperand.negative (isPlainNumber_toString _)).mono (Nat.le_refl _) ?_
    rintro _ rfl
    exact .negative neg

theorem written_float {d : Double} (finite : d.isFinite) :
    WrittenOperand (Value.float d).nesting (Value.float d).display (LiteralOf (.float d)) := by
  have plain : IsPlainNumber (String.ofList d.magnitude.positional).toList := by
    rw [String.toList_ofList]
    exact (Double.Decimal.positional_spec d.magnitude_all_isDigit).1
  rw [Value.display, Value.nesting, Double.text_of_isFinite finite]
  cases sign : d.isNegative with
  | false =>
      have written := (WrittenOperand.number plain).mono (Nat.zero_le 0)
        (Q := LiteralOf (.float d)) (by rintro _ rfl; exact .decimal sign)
      simpa using written
  | true =>
      refine (WrittenOperand.negative plain).mono (Nat.le_refl _) ?_
      rintro _ rfl
      exact .negativeDecimal sign

/-- The display of a scalar is its literal. -/
theorem written_scalar {v : Value} (scalar : v.isScalar) :
    WrittenOperand v.nesting v.display (LiteralOf v) := by
  cases v with
  | null =>
      rw [Value.display]
      refine (WrittenOperand.word .null).mono (Nat.zero_le _) ?_
      rintro _ rfl
      exact .null
  | bool b =>
      rw [Value.display]
      cases b
      · refine (WrittenOperand.word .false).mono (Nat.zero_le _) ?_
        rintro _ rfl
        exact .bool false
      · refine (WrittenOperand.word .true).mono (Nat.zero_le _) ?_
        rintro _ rfl
        exact .bool true
  | integer i => exact written_integer i
  | float d => exact written_float scalar
  | text s =>
      rw [Value.display]
      refine (WrittenOperand.text s).mono (Nat.zero_le _) ?_
      rintro _ rfl
      exact .text s
  | list items => cases scalar

/-- The operators that are symbols. -/
theorem comparisonSymbol_of_operator {op : Operator} (noList : op.isMembership = false)
    (noPattern : op.isPattern = false) :
    ∃ binary, ComparisonSymbol op.text binary ∧ QueryText.comparisonOperator? binary = some op := by
  cases op with
  | eq => exact ⟨.eq, .eq, rfl⟩
  | notEq => exact ⟨.notEq, .notEq, rfl⟩
  | lt => exact ⟨.lt, .lt, rfl⟩
  | ltEq => exact ⟨.ltEq, .ltEq, rfl⟩
  | gt => exact ⟨.gt, .gt, rfl⟩
  | gtEq => exact ⟨.gtEq, .gtEq, rfl⟩
  | like | notLike => cases noPattern
  | isIn | notIn => cases noList

end ConditionText

end EntityQuery
