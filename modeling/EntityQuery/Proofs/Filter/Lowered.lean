import EntityQuery.Proofs.Filter.Meaning
import EntityQuery.Proofs.Result

/-!
# The filter says what the condition says

The printer writes no parentheses of its own, so the grouping of a filter rests on the lowering,
which puts a member of a connective in parentheses exactly where it is a connective of several
members. Read back, a chain of a connective has the connective as its loosest operator: a member
binds tighter than either connective, and a whole condition at least as tight as a disjunction.
-/

namespace EntityQuery

open ConditionText Parse

namespace Meaning

variable {α : Type} (m : Meaning α) {column : String} {op : Operator} {v : Value} {e : Sql.Expr}

/-- A text is read as an expression that says a truth value and whose operators bind at least as
tight as `floor`. -/
def SaysAt (floor : Nat) (text : String) (t : Truth) : Prop :=
  ∃ need, Written need floor text fun e => m.truth e = t

variable {m}

theorem SaysAt.mono {floor floor' : Nat} {text : String} {t : Truth} (h : m.SaysAt floor text t)
    (lower : floor' ≤ floor) : m.SaysAt floor' text t := by
  obtain ⟨need, written⟩ := h
  exact ⟨need, written.mono (Nat.le_refl _) lower fun _ => id⟩

theorem SaysAt.of_operand {need : Nat} {text : String} {t : Truth}
    (h : WrittenOperand need text fun e => m.truth e = t) (floor : Nat) : m.SaysAt floor text t :=
  ⟨need, h.toWritten floor⟩

/-! ## Operands -/

/-- An operand of a comparison is finite if none of its floats is infinite or no number. -/
def Finite (v : Value) : Prop :=
  match v with
  | .list items => ∀ item ∈ items, QueryText.isInfinite item = false
  | v => QueryText.isInfinite v = false

theorem written_rootColumn (plain : isPlainWord column.toList) :
    WrittenOperand 0 (rootColumn column).text fun e => m.value e = m.column column := by
  have text : (rootColumn column).text = rootAlias ++ "." ++ column := by
    rw [rootColumn, Sql.Expr.text]
  rw [text]
  refine (WrittenOperand.qualified (by decide) (by decide) plain).mono (Nat.le_refl _) ?_
  rintro e ⟨extent, extent', rfl⟩
  rw [value, if_pos rfl]

/-- A literal is the display of its value, which is a scalar. -/
theorem literal_spec (finite : QueryText.isInfinite v = false)
    (h : Lowering.literal column v = .ok e) : e.text = v.display ∧ v.isScalar := by
  unfold Lowering.literal at h
  cases v with
  | null | bool _ | integer _ | text _ =>
      cases h
      exact ⟨by rw [Sql.Expr.text, Sql.Literal.text, Value.display], rfl⟩
  | float d =>
      cases h
      exact ⟨by rw [Sql.Expr.text, Sql.Literal.text, Value.display],
        by simpa [QueryText.isInfinite, Value.isScalar] using finite⟩
  | list items => cases h

theorem written_literal (finite : QueryText.isInfinite v = false)
    (h : Lowering.literal column v = .ok e) :
    WrittenOperand v.nesting e.text fun e => m.value e = m.datum v := by
  obtain ⟨text, scalar⟩ := literal_spec finite h
  rw [text]
  exact (written_scalar scalar).mono (Nat.le_refl _) fun e => m.value_of_literalOf

/-- The literals of the items of a list are the displays of these items. -/
theorem literals_spec {items : List Value} {es : List Sql.Expr}
    (finite : ∀ item ∈ items, QueryText.isInfinite item = false)
    (h : items.mapM (Lowering.literal column) = .ok es) :
    Sql.Expr.texts es = items.map Value.display ∧ ∀ item ∈ items, item.isScalar := by
  have each := mapM_eq_ok.1 h
  induction each with
  | nil => exact ⟨by rw [Sql.Expr.texts.eq_def, List.map_nil], by simp⟩
  | @cons item e items es first further ih =>
      obtain ⟨text, scalar⟩ := literal_spec (finite item List.mem_cons_self) first
      obtain ⟨texts, scalars⟩ :=
        ih (fun v mem => finite v (List.mem_cons_of_mem _ mem)) (mapM_eq_ok.2 further)
      refine ⟨by rw [Sql.Expr.texts.eq_def, List.map_cons]; simp only [text, texts], ?_⟩
      simpa using ⟨scalar, scalars⟩

/-! ## Comparisons -/

/-- A null test. -/
theorem says_isNull (plain : isPlainWord column.toList) (negated : Bool) :
    m.SaysAt Strength.test.rank (Sql.Expr.isNull (rootColumn column) negated).text
      (some (m.isNull (m.column column) != negated)) := by
  have target := written_rootColumn (m := m) plain
  have said (e : Expr) (same : m.value e = m.column column) :
      m.truth (.isNull e negated) = some (m.isNull (m.column column) != negated) := by
    rw [truth, same]
  cases negated with
  | false =>
      have text : (Sql.Expr.isNull (rootColumn column) false).text =
          (rootColumn column).text ++ " " ++ "IS" ++ " " ++ "NULL" := by
        simp only [Sql.Expr.text, String.append_assoc]
        rfl
      rw [text]
      exact ⟨_, target.nullTest .plain said⟩
  | true =>
      have text : (Sql.Expr.isNull (rootColumn column) true).text =
          (rootColumn column).text ++ " " ++ "IS" ++ " " ++ ("NOT" ++ " " ++ "NULL") := by
        simp only [Sql.Expr.text, String.append_assoc]
        rfl
      rw [text]
      exact ⟨_, target.nullTest .negated said⟩

theorem truth_constant (b : Bool) : m.truth (.constant (.boolean b)) = some b := by
  rw [truth]

/-- A truth value. -/
theorem says_boolean (b : Bool) (floor : Nat) :
    m.SaysAt floor (Sql.Expr.literal (.boolean b)).text (some b) := by
  rw [Sql.Expr.text, Sql.Literal.text]
  cases b with
  | false =>
      refine .of_operand ((WrittenOperand.word .false).mono (Nat.le_refl _) ?_) floor
      rintro _ rfl
      exact truth_constant false
  | true =>
      refine .of_operand ((WrittenOperand.word .true).mono (Nat.le_refl _) ?_) floor
      rintro _ rfl
      exact truth_constant true

/-- A membership test over at least one item. -/
theorem says_inList (plain : isPlainWord column.toList) {items : List Value}
    (nonempty : items ≠ []) {es : List Sql.Expr}
    (finite : ∀ item ∈ items, QueryText.isInfinite item = false)
    (h : items.mapM (Lowering.literal column) = .ok es) (negated : Bool) :
    m.SaysAt Strength.membership.rank (Sql.Expr.inList (rootColumn column) es negated).text
      (Truth.negatedIf negated (m.isOneOf (m.column column) (items.map m.datum))) := by
  have target := written_rootColumn (m := m) plain
  obtain ⟨texts, scalar⟩ := literals_spec finite h
  have said (e : Expr) (read : List Expr) (same : m.value e = m.column column)
      (values : List.Forall₂ (fun v e => m.value e = m.datum v) items read) :
      m.truth (.inList e read negated) =
        Truth.negatedIf negated (m.isOneOf (m.column column) (items.map m.datum)) := by
    have values_eq : items.map m.datum = read.map m.value := by
      rw [← List.forall₂_eq_eq_eq, List.forall₂_map_left_iff, List.forall₂_map_right_iff]
      exact values.imp fun _ _ => Eq.symm
    rw [truth, same, values_eq]
  have written (item : Value) (mem : item ∈ items) :
      Written (Value.nestingAll items) Strength.comparison.rank item.display
        fun e => m.value e = m.datum item :=
    ((written_scalar (scalar item mem)).toWritten _).mono (Value.nesting_le_nestingAll mem)
      (Nat.le_refl _) fun e => m.value_of_literalOf
  cases negated with
  | false =>
      have text : (Sql.Expr.inList (rootColumn column) es false).text =
          (rootColumn column).text ++ " " ++ "IN" ++ " " ++
            ("(" ++ ", ".intercalate (items.map Value.display) ++ ")") := by
        simp only [Sql.Expr.text, texts, String.append_assoc]
        rfl
      rw [text]
      exact ⟨_, target.membership .plain nonempty (by decide) written said⟩
  | true =>
      have text : (Sql.Expr.inList (rootColumn column) es true).text =
          (rootColumn column).text ++ " " ++ ("NOT" ++ " " ++ "IN") ++ " " ++
            ("(" ++ ", ".intercalate (items.map Value.display) ++ ")") := by
        simp only [Sql.Expr.text, texts, String.append_assoc]
        rfl
      rw [text]
      exact ⟨_, target.membership .negated nonempty (by decide) written said⟩

/-- A pattern test. -/
theorem says_like (plain : isPlainWord column.toList) (finite : QueryText.isInfinite v = false)
    (h : Lowering.literal column v = .ok e) (negated : Bool) :
    m.SaysAt Strength.membership.rank
      (Sql.Expr.binary (rootColumn column) (if negated then .notLike else .like) e).text
      (Truth.negatedIf negated (m.like (m.column column) (m.datum v))) := by
  have target := written_rootColumn (m := m) plain
  have right := (written_literal (m := m) finite h).toWritten Strength.sum.rank
  have said (left right : Expr) (same : m.value left = m.column column)
      (same' : m.value right = m.datum v) :
      m.truth (.like negated false left right none) =
        Truth.negatedIf negated (m.like (m.column column) (m.datum v)) := by
    rw [truth, same, same']
  cases negated with
  | false =>
      simp only [Bool.false_eq_true, if_false, Sql.Expr.text, Sql.BinaryOperator.text]
      exact ⟨_, target.pattern .plain right (by decide) said⟩
  | true =>
      simp only [if_true, Sql.Expr.text, Sql.BinaryOperator.text]
      exact ⟨_, target.pattern .negated right (by decide) said⟩

theorem truth_of_comparisonOperator {binary : BinaryOp}
    (known : QueryText.comparisonOperator? binary = some op) (left right : Expr) :
    m.truth (.binary left binary right) = m.compare op (m.value left) (m.value right) := by
  cases binary <;> first | cases known; rfl | cases known

/-- A comparison with a symbol. -/
theorem says_symbol (plain : isPlainWord column.toList) (finite : QueryText.isInfinite v = false)
    (h : Lowering.literal column v = .ok e) {b : Sql.BinaryOperator} (known : op.binary? = some b)
    (noPattern : op.isPattern = false) :
    m.SaysAt Strength.comparison.rank (Sql.Expr.binary (rootColumn column) b e).text
      (m.compare op (m.column column) (m.datum v)) := by
  have target := written_rootColumn (m := m) plain
  have right := (written_literal (m := m) finite h).toWritten Strength.sum.rank
  have noList : op.isMembership = false := by cases op <;> first | rfl | cases known
  have text : b.text = op.text := by cases op <;> cases known <;> rfl
  obtain ⟨binary, symbol, read⟩ := comparisonSymbol_of_operator noList noPattern
  have said (left right : Expr) (same : m.value left = m.column column)
      (same' : m.value right = m.datum v) :
      m.truth (.binary left binary right) = m.compare op (m.column column) (m.datum v) := by
    rw [truth_of_comparisonOperator read, same, same']
  rw [Sql.Expr.text, text]
  exact ⟨_, target.comparison symbol right (by decide) said⟩

theorem lowered_membership (column : String) (negated : Bool) (v : Value) :
    Lowering.comparison column (if negated then .notIn else .isIn) v =
      match v with
      | .list [] => .ok (.literal (.boolean negated))
      | .list items => do
        let literals ← items.mapM (Lowering.literal column)
        .ok (.inList (rootColumn column) literals negated)
      | _ => .error (.invalidValue column (.listExpected (if negated then .notIn else .isIn))) := by
  cases negated
  · cases v with
    | list items => cases items <;> rfl
    | _ => rfl
  · cases v with
    | list items => cases items <;> rfl
    | _ => rfl

/-- A membership test is lowered to one, or to a truth value where the list is empty. -/
theorem says_membership (plain : isPlainWord column.toList) (finite : Finite v) (negated : Bool)
    (h : Lowering.comparison column (if negated then .notIn else .isIn) v = .ok e) :
    m.SaysAt Strength.test.rank e.text
      (m.comparison column (if negated then .notIn else .isIn) v) := by
  have said (items : List Value) : m.comparison column (if negated then .notIn else .isIn)
      (.list items) =
        Truth.negatedIf negated (m.isOneOf (m.column column) (items.map m.datum)) := by
    cases negated <;> rfl
  rw [lowered_membership] at h
  split at h
  · cases h
    rw [said]
    have empty : Truth.negatedIf negated (m.isOneOf (m.column column) []) = some negated := by
      cases negated <;> rfl
    rw [List.map_nil, empty]
    exact says_boolean negated _
  · next items nonempty =>
      obtain ⟨literals, mapped, last⟩ := bind_eq_ok.1 h
      cases last
      rw [said]
      have items_ne : items ≠ [] := by
        rintro rfl
        exact nonempty rfl
      exact (says_inList plain items_ne finite mapped negated).mono (by decide)
  · cases h

/-- Where a comparison is lowered to a binary expression, its operand is a finite scalar. -/
theorem operand_of_lowered (finite : Finite v) {b : Sql.BinaryOperator}
    (h : ((Lowering.literal column v).bind fun right =>
      .ok (.binary (rootColumn column) b right)) = .ok e) :
    ∃ right, e = .binary (rootColumn column) b right ∧
      Lowering.literal column v = .ok right ∧ QueryText.isInfinite v = false := by
  obtain ⟨right, literal, last⟩ := bind_eq_ok.1 h
  cases last
  refine ⟨right, rfl, literal, ?_⟩
  cases v with
  | list items => cases literal
  | _ => exact finite

/-- What a comparison is lowered to says what the comparison says. -/
theorem says_comparison (plain : isPlainWord column.toList) (finite : Finite v)
    (h : Lowering.comparison column op v = .ok e) :
    m.SaysAt Strength.test.rank e.text (m.comparison column op v) := by
  have symbol {b : Sql.BinaryOperator} (known : op.binary? = some b)
      (noPattern : op.isPattern = false)
      (lowered : Lowering.comparison column op v =
        (Lowering.literal column v).bind fun right => .ok (.binary (rootColumn column) b right))
      (said : m.comparison column op v = m.compare op (m.column column) (m.datum v)) :
      m.SaysAt Strength.test.rank e.text (m.comparison column op v) := by
    rw [lowered] at h
    obtain ⟨right, rfl, literal, number⟩ := operand_of_lowered finite h
    rw [said]
    exact (says_symbol plain number literal known noPattern).mono (by decide)
  cases op with
  | isIn => exact says_membership plain finite false h
  | notIn => exact says_membership plain finite true h
  | like =>
      obtain ⟨right, rfl, literal, number⟩ := operand_of_lowered (b := .like) finite h
      exact (says_like plain number literal false).mono (by decide)
  | notLike =>
      obtain ⟨right, rfl, literal, number⟩ := operand_of_lowered (b := .notLike) finite h
      exact (says_like plain number literal true).mono (by decide)
  | eq =>
      cases v with
      | null =>
          cases h
          have tested := says_isNull (m := m) plain false
          rwa [Bool.bne_false] at tested
      | _ => exact symbol rfl rfl rfl rfl
  | notEq =>
      cases v with
      | null =>
          cases h
          have tested := says_isNull (m := m) plain true
          rwa [Bool.bne_true] at tested
      | _ => exact symbol rfl rfl rfl rfl
  | lt | ltEq | gt | gtEq => exact symbol rfl rfl rfl rfl

end Meaning

end EntityQuery
