import EntityQuery.Lowering
import EntityQuery.QueryText
import EntityQuery.Proofs.Reading.Literal
import EntityQuery.Proofs.Truth

/-!
# The meaning of SQL expressions on a row

`Meaning` is what a database makes of one row: the values of its columns, the comparison of values,
and whatever it makes of the expressions that conditions never become. Nothing is assumed about any
of these, so what holds of every meaning holds on every row of every database. Fixed is only what
the grammar fixes: parentheses group, a numeral stands for its decimal value, the connectives and
the membership test are those of three-valued logic.
-/

namespace EntityQuery

open ConditionText

/-- What a database makes of one row of the root table. -/
structure Meaning (α : Type) where
  /-- The values of the columns of the row. -/
  column : String → α
  null : α
  bool : Bool → α
  number : ℚ → α
  text : String → α
  isNull : α → Bool
  /-- The comparisons that are written as symbols. -/
  compare : Operator → α → α → Truth
  /-- The pattern test. -/
  like : α → α → Truth
  /-- The value of any other expression. -/
  otherValue : Expr → α
  /-- The truth of any other expression. -/
  otherTruth : Expr → Truth

namespace Meaning

variable {α : Type} (m : Meaning α)

/-! ## Expressions as they are read -/

/-- The value of an expression. -/
def value : Expr → α
  | .compound [table, name] =>
    if table.value = rootAlias then m.column name.value else m.otherValue (.compound [table, name])
  | .ident name => m.column name.value
  | .constant .null => m.null
  | .constant (.boolean b) => m.bool b
  | .constant (.plainText s) => m.text s
  | .constant (.number digits long) =>
    match Double.rational? digits.toList with
    | some q => m.number q
    | none => m.otherValue (.constant (.number digits long))
  | .signed .minus (.constant (.number digits long)) =>
    match Double.rational? digits.toList with
    | some q => m.number (-q)
    | none => m.otherValue (.signed .minus (.constant (.number digits long)))
  | .nested inner => value inner
  | e => m.otherValue e

/-- Whether a value is one of several, as a comparison with each of them. -/
def isOneOf (v : α) (items : List α) : Truth := Truth.any (items.map (m.compare .eq v))

/-- The truth of an expression. -/
def truth : Expr → Truth
  | .nested inner => truth inner
  | .constant (.boolean b) => some b
  | .binary left .and right => Truth.and (truth left) (truth right)
  | .binary left .or right => Truth.or (truth left) (truth right)
  | .binary left op right =>
    match QueryText.comparisonOperator? op with
    | some comparison => m.compare comparison (m.value left) (m.value right)
    | none => m.otherTruth (.binary left op right)
  | .isNull operand negated => some (m.isNull (m.value operand) != negated)
  | .inList operand items negated =>
    Truth.negatedIf negated (m.isOneOf (m.value operand) (items.map m.value))
  | .like negated false operand pattern none =>
    Truth.negatedIf negated (m.like (m.value operand) (m.value pattern))
  | e => m.otherTruth e

/-! ## Conditions -/

/-- The value of an operand that is no list. A float stands for its decimal. -/
def datum : Value → α
  | .null | .list _ => m.null
  | .bool b => m.bool b
  | .integer i => m.number i.toInt
  | .float d => m.number d.decimalValue
  | .text s => m.text s

/-- The truth of a comparison: comparing with null for being equal is a null test, and every other
comparison is the one of the database. -/
def comparison (column : String) (op : Operator) (operand : Value) : Truth :=
  let v := m.column column
  match op, operand with
  | .eq, .null => some (m.isNull v)
  | .notEq, .null => some (!m.isNull v)
  | .isIn, .list items => m.isOneOf v (items.map m.datum)
  | .notIn, .list items => Truth.not (m.isOneOf v (items.map m.datum))
  | .like, w => m.like v (m.datum w)
  | .notLike, w => Truth.not (m.like v (m.datum w))
  | op, w => m.compare op v (m.datum w)

/-- The truth of a condition on the row, given the truth of its pieces of SQL. -/
def condition (piece : String → Truth) (c : Condition) : Truth := c.truth m.comparison piece

section

variable (piece : String → Truth)

theorem condition_comparison (column : String) (op : Operator) (v : Value) :
    m.condition piece (.comparison column op v) = m.comparison column op v := by
  rw [condition, Condition.truth]

theorem condition_all (members : List Condition) :
    m.condition piece (.all members) = Truth.all (members.map (m.condition piece)) := by
  rw [condition, Condition.truth, Condition.truths_eq_map]
  rfl

theorem condition_any (members : List Condition) :
    m.condition piece (.any members) = Truth.any (members.map (m.condition piece)) := by
  rw [condition, Condition.truth, Condition.truths_eq_map]
  rfl

theorem condition_raw (fragment : String) : m.condition piece (.raw fragment) = piece fragment := by
  rw [condition, Condition.truth]

end

/-! ## Texts -/

/-- A text is read as one expression, and what it says is a truth value: wherever it stands, and
whatever clause or item follows, its tokens are read up to its end at every level of nesting that is
deep enough. -/
def Says (text : String) (t : Truth) : Prop :=
  ∃ need, ∀ l after rest, Breaks after → lex (l.advanceAll text.toList) after = .ok rest →
    EndsExpr rest → Parse.nextRank rest = 0 →
      ∃ tokens e, lex l (text.toList ++ after) = .ok tokens ∧
        (∀ n, need < n → (level n).expr tokens = .ok (e, rest)) ∧ m.truth e = t

/-- A text is one complete expression that says a truth value: in front of a closing parenthesis its
tokens are its own, and they are read up to there. -/
def SaysInside (text : String) (t : Truth) : Prop :=
  ∃ need, Enclosed need text fun e => m.truth e = t

theorem says_of_written {need floor : Nat} {text : String} {t : Truth}
    (h : Written need floor text fun e => m.truth e = t) (some : 0 < floor) : m.Says text t := by
  refine ⟨need, fun l after rest breaks lexed ends stops => ?_⟩
  obtain ⟨ls, e, front, reads, holds⟩ := h l
  refine ⟨ls ++ rest, e, ?_, fun n enough => ?_, holds⟩
  · rw [front after breaks, lexed]
    rfl
  · exact reads.tighter enough some ends (Nat.le_of_eq stops)

/-! ## Literals -/

theorem value_of_digits {digits : String} {q : ℚ}
    (h : Double.rational? digits.toList = some q) :
    m.value (.constant (.number digits false)) = m.number q ∧
      m.value (.signed .minus (.constant (.number digits false))) = m.number (-q) := by
  simp [value, h]

/-- The literal of a scalar has its value. -/
theorem value_of_literalOf {v : Value} {e : Expr} (h : LiteralOf v e) :
    m.value e = m.datum v := by
  cases h with
  | null | bool _ | text _ => rfl
  | @natural i nonneg =>
      rw [(m.value_of_digits (Double.rational?_toString _)).1, datum]
      congr 1
      rw [← Int.cast_natCast, Int.toNat_of_nonneg nonneg]
  | @negative i neg =>
      rw [(m.value_of_digits (Double.rational?_toString _)).2, datum]
      congr 1
      have same : -(i.toInt.natAbs : ℤ) = i.toInt := by omega
      rw [← Int.cast_natCast, ← Int.cast_neg, same]
  | @decimal d nonneg =>
      rw [(m.value_of_digits d.rational?_magnitude).1, datum, Double.decimalValue, nonneg]
      rfl
  | @negativeDecimal d neg =>
      rw [(m.value_of_digits d.rational?_magnitude).2, datum, Double.decimalValue, neg]
      rfl

end Meaning

end EntityQuery
