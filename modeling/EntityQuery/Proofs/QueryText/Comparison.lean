import EntityQuery.QueryText
import EntityQuery.Proofs.QueryText.NormalForm
import EntityQuery.Proofs.Values

/-!
# Query text of comparisons

The display of a comparison is query text that is narrowed to this comparison: it names the field,
and its literals denote the operand. This needs a plain name and a plain operand, a list exactly for
a membership test; whether the field accepts the operand is decided later.
-/

namespace EntityQuery

namespace QueryText

open ConditionText Parse

/-! ## Literals -/

/-- A plain value is what its literal denotes. -/
theorem value?_of_literalOf {v : Value} (plain : v.isPlain) {e : Expr} (h : LiteralOf v e) :
    value? e = some v := by
  cases h with
  | null | bool _ | text _ => rfl
  | natural nonneg =>
      simp only [value?, number?, Bool.false_eq_true, if_false, Numeral.int64?_toString nonneg]
  | negative neg =>
      simp only [value?, number?, if_true, Numeral.int64?_minus_toString neg]
  | decimal _ | negativeDecimal _ => cases plain

/-- A plain value is displayed as a literal that denotes it. -/
theorem written_value {v : Value} (plain : v.isPlain) :
    WrittenOperand v.nesting v.display fun e => value? e = some v := by
  have scalar : v.isScalar := by
    cases v <;> first | rfl | cases plain
  exact (written_scalar scalar).mono (Nat.le_refl _) fun e => value?_of_literalOf plain

theorem literal_of_value? {v : Value} (plain : v.isPlain) {e : Expr} (h : value? e = some v)
    (text : List Char) : literal text e = .ok v := by
  have finite : isInfinite v = false := by
    cases v <;> first | rfl | cases plain
  exact literal_eq_ok.2 ⟨h, finite⟩

theorem mapM_literal {items : List Value} (plain : ∀ v ∈ items, v.isPlain) {es : List Expr}
    (h : List.Forall₂ (fun v e => value? e = some v) items es) (text : List Char) :
    es.mapM (literal text) = .ok items := by
  have each : List.Forall₂ (fun v e => literal text e = .ok v) items es := by
    induction h with
    | nil => exact .nil
    | @cons v e items es first _ ih =>
        refine .cons (literal_of_value? (plain v List.mem_cons_self) first text) (ih ?_)
        exact fun w mem => plain w (List.mem_cons_of_mem v mem)
  exact mapM_eq_ok.2 each.flip

/-! ## Comparisons -/

/-- An expression that names a field. -/
def Names (column : String) (e : Expr) : Prop := ∃ extent, e = .ident ⟨column, none, extent⟩

/-- An expression is narrowed to the comparison of a field with a value, whatever text it comes
from. -/
def Compares (p : Persister) (column : String) (op : Operator) (v : Value) (e : Expr) : Prop :=
  ∃ target, Names column target ∧ ∀ text, narrow p text e = comparison p text target op v

section

variable {p : Persister} {column : String} {op : Operator} {v : Value}

theorem field_of_names {target : Expr} (named : Names column target) (text : List Char) :
    field text target = .ok column := by
  obtain ⟨extent, rfl⟩ := named
  rfl

theorem displayAll_eq_map (items : List Value) :
    Value.displayAll items = items.map Value.display := by
  induction items with
  | nil => rw [Value.displayAll, List.map_nil]
  | cons v items ih => rw [Value.displayAll, ih, List.map_cons]

section

variable (p) (name : WrittenOperand 0 column (Names column))

include name

/-- The display of a membership test is narrowed to this test. -/
theorem written_membership {items : List Value} (nonempty : items ≠ [])
    (plain : ∀ v ∈ items, v.isPlain) (membership : op.isMembership) :
    Written (Condition.comparison column op (.list items)).nesting Strength.comparison.rank
      (Condition.comparison column op (.list items)).display
      (Compares p column op (.list items)) := by
  obtain ⟨negated, words, same⟩ : ∃ negated, NegatableText "IN" op.text negated ∧
      (if negated then Operator.notIn else .isIn) = op := by
    cases op with
    | isIn => exact ⟨false, .plain, rfl⟩
    | notIn => exact ⟨true, .negated, rfl⟩
    | _ => cases membership
  rw [Condition.display, Condition.nesting, Value.display, displayAll_eq_map, Value.nesting]
  have written := WrittenOperand.membership words name nonempty (by decide)
    (fun v mem => ((written_value (plain v mem)).toWritten 60).mono
      (Value.nesting_le_nestingAll mem) (Nat.le_refl _) fun _ => id)
    (R := Compares p column op (.list items)) fun e es named values => by
      refine ⟨e, named, fun text => ?_⟩
      rw [narrow, same, mapM_literal plain values text]
      rfl
  exact written.mono (by simp) (by decide) fun _ => id

/-- The display of a pattern test is narrowed to this test. -/
theorem written_pattern (plain : v.isPlain) (pattern : op.isPattern) :
    Written (Condition.comparison column op v).nesting Strength.comparison.rank
      (Condition.comparison column op v).display (Compares p column op v) := by
  obtain ⟨negated, words, same⟩ : ∃ negated, NegatableText "LIKE" op.text negated ∧
      (if negated then Operator.notLike else .like) = op := by
    cases op with
    | like => exact ⟨false, .plain, rfl⟩
    | notLike => exact ⟨true, .negated, rfl⟩
    | _ => cases pattern
  rw [Condition.display, Condition.nesting]
  have right := (written_value plain).toWritten 70
  have written := WrittenOperand.pattern words name right (by decide)
    (R := Compares p column op v) fun e e' named value => by
      refine ⟨e, named, fun text => ?_⟩
      rw [narrow, same, literal_of_value? plain value text]
      rfl
  exact written.mono (by simp) (by decide) fun _ => id

/-- The display of any other comparison is narrowed to this comparison. -/
theorem written_symbol (plain : v.isPlain) (noMembership : op.isMembership = false)
    (noPattern : op.isPattern = false) :
    Written (Condition.comparison column op v).nesting Strength.comparison.rank
      (Condition.comparison column op v).display (Compares p column op v) := by
  obtain ⟨binary, symbol, same⟩ := comparisonSymbol_of_operator noMembership noPattern
  rw [Condition.display, Condition.nesting]
  have right := (written_value plain).toWritten 70
  have written := WrittenOperand.comparison symbol name right (by decide)
    (R := Compares p column op v) fun e e' named value => by
      refine ⟨e, named, fun text => ?_⟩
      rw [narrow_operator same, literal_of_value? plain value text]
      rfl
  exact written.mono (by simp) (Nat.le_refl _) fun _ => id

end

/-- The display of a comparison of a plain field with a plain operand is narrowed to this
comparison. -/
theorem written_compares (p : Persister) (word : isPlainWord column.toList)
    (free : Unicode.upper column ∉ reservedWords) (plain : v.isPlainOperand)
    (kind : v.isList = op.isMembership) :
    Written (Condition.comparison column op v).nesting Strength.comparison.rank
      (Condition.comparison column op v).display (Compares p column op v) := by
  have name : WrittenOperand 0 column (Names column) := .name word free
  cases membership : op.isMembership with
  | true =>
      obtain ⟨items, rfl⟩ : ∃ items, v = .list items := by
        cases v <;> simp_all [Value.isList]
      simp only [Value.isPlainOperand, Bool.and_eq_true, Bool.not_eq_true',
        List.isEmpty_eq_false_iff, List.all_eq_true] at plain
      exact written_membership p name plain.1 plain.2 membership
  | false =>
      have scalar : v.isPlain := by
        cases v <;> simp_all [Value.isList, Value.isPlainOperand]
      cases pattern : op.isPattern with
      | true => exact written_pattern p name scalar pattern
      | false => exact written_symbol p name scalar membership pattern

end

end QueryText

end EntityQuery
