import EntityQuery.Persister
import EntityQuery.Proofs.Result

/-!
# The shape of statements

A comparison is lowered in four ways: to a truth value if it is a membership test over nothing, to a
null test, to a binary expression of a column and a literal, or to a membership test over literals.
A connective is lowered to a chain of its members, and the condition that always holds to no filter.
A statement selects the whole rows of the entity's table that a filter keeps. All this is said once
here, so that what holds of statements is shown for these shapes.
-/

namespace EntityQuery

namespace Lowering

/-- The expressions that comparisons of a column are lowered to. -/
inductive Shape (column : String) (op : Operator) : Value → Sql.Expr → Prop
  | constant : Shape column op (.list []) (.literal (.boolean (op == .notIn)))
  | nullTest : Shape column op .null (.isNull (rootColumn column) (op == .notEq))
  | binary {v : Value} {b : Sql.BinaryOperator} {l : Sql.Literal} (known : op.binary? = some b)
      (scalar : literal? v = some l) :
      Shape column op v (.binary (rootColumn column) b (.literal l))
  | membership {items : List Value} {ls : List Sql.Literal}
      (scalars : List.Forall₂ (fun v l => literal? v = some l) items ls) :
      Shape column op (.list items)
        (.inList (rootColumn column) (ls.map .literal) (op == .notIn))

variable {column : String} {op : Operator} {v : Value} {e : Sql.Expr}

theorem literal_eq_ok : literal column v = .ok e ↔ ∃ l, literal? v = some l ∧ e = .literal l := by
  rw [literal]
  cases literal? v with
  | none => simp
  | some l => simp [eq_comm]

theorem literals_eq_ok {items : List Value} {es : List Sql.Expr} :
    items.mapM (literal column) = .ok es ↔
      ∃ ls, List.Forall₂ (fun v l => literal? v = some l) items ls ∧ es = ls.map .literal := by
  rw [mapM_eq_ok]
  constructor
  · intro each
    induction each with
    | nil => exact ⟨[], .nil, rfl⟩
    | cons first further ih =>
        obtain ⟨l, read, rfl⟩ := literal_eq_ok.1 first
        obtain ⟨ls, rest, rfl⟩ := ih
        exact ⟨l :: ls, .cons read rest, rfl⟩
  · rintro ⟨ls, each, rfl⟩
    rw [List.forall₂_map_right_iff]
    exact each.imp fun v l read => literal_eq_ok.2 ⟨l, read, rfl⟩

theorem shape_of_comparison (h : comparison column op v = .ok e) : Shape column op v e := by
  unfold comparison at h
  dsimp only at h
  split at h
  · cases h
    exact .nullTest
  · cases h
    exact .nullTest
  · split at h
    · cases h
      exact .constant
    · obtain ⟨es, read, h⟩ := bind_eq_ok.1 h
      obtain ⟨ls, scalars, rfl⟩ := literals_eq_ok.1 read
      cases h
      exact .membership scalars
    · cases h
    · next known _ _ =>
        obtain ⟨right, read, h⟩ := bind_eq_ok.1 h
        obtain ⟨l, scalar, rfl⟩ := literal_eq_ok.1 read
        cases h
        exact .binary known scalar

/-! ## Connectives -/

theorem expr_all_eq_ok {members : List Condition} : expr (.all members) = .ok e ↔
    ∃ es, memberExprs members = .ok es ∧ e = chain .and true es := by
  rw [expr, bind_eq_ok]
  simp only [Except.ok.injEq, eq_comm (a := e)]

theorem expr_any_eq_ok {members : List Condition} : expr (.any members) = .ok e ↔
    ∃ es, memberExprs members = .ok es ∧ e = chain .or false es := by
  rw [expr, bind_eq_ok]
  simp only [Except.ok.injEq, eq_comm (a := e)]

theorem memberExprs_cons_eq_ok {c : Condition} {cs : List Condition} {es : List Sql.Expr} :
    memberExprs (c :: cs) = .ok es ↔ ∃ e others, expr c = .ok e ∧ memberExprs cs = .ok others ∧
      es = member c e :: others := by
  rw [memberExprs]
  simp only [bind_eq_ok, Except.ok.injEq, exists_and_left, eq_comm (a := es)]

/-- The condition that always holds needs no filter. -/
theorem filter_eq_ok {c : Condition} {e? : Option Sql.Expr} : filter c = .ok e? ↔
    (c = .always ∧ e? = none) ∨ c ≠ .always ∧ ∃ e, expr c = .ok e ∧ e? = some e := by
  rw [filter]
  split
  · next trivial => simp [Condition.isTrivial_iff.1 trivial, eq_comm (a := e?)]
  · next other =>
      have other : c ≠ .always := fun same => other (Condition.isTrivial_iff.2 same)
      simp [map_eq_ok, other, eq_comm (a := e?)]

end Lowering

/-- The statement of the rows of a table that a filter keeps, as they are. -/
def Sql.Select.wholeRows (t : TableName) (filter : Option Sql.Expr) (order : List Sql.OrderTerm)
    (limit offset : Option Nat) : Sql.Select :=
  ⟨false, [.allOf rootAlias], some (.table t.schema t.name (some rootAlias)), filter, order, limit,
    offset⟩

@[simp] theorem Sql.Select.paginated_self (s : Sql.Select) :
    s.paginated s.limit s.offset = s := by
  cases s
  rfl

namespace Persister

variable {p : Persister}

theorem rootTable_eq_ok {table : Sql.Source} : p.rootTable = .ok table ↔
    ∃ t, p.catalog.table? p.entity = some t ∧
      table = .table t.schema t.name (some rootAlias) := by
  rw [rootTable]
  cases p.catalog.table? p.entity with
  | none => simp
  | some t => simp [eq_comm]

theorem select_eq_ok {c : Clauses} {s : Sql.Select} : p.select c = .ok s ↔
    ∃ filter t, c.filter = .ok filter ∧ p.catalog.table? p.entity = some t ∧
      s = .wholeRows t filter (Lowering.order (c.order.getD [])) c.limit c.offset := by
  rw [select, bind_eq_ok]
  constructor
  · rintro ⟨filter, lowered, made⟩
    obtain ⟨table, root, made⟩ := bind_eq_ok.1 made
    obtain ⟨t, known, rfl⟩ := rootTable_eq_ok.1 root
    cases made
    exact ⟨filter, t, lowered, known, rfl⟩
  · rintro ⟨filter, t, lowered, known, rfl⟩
    exact ⟨filter, lowered, bind_eq_ok.2 ⟨_, rootTable_eq_ok.2 ⟨t, known, rfl⟩, rfl⟩⟩

/-- The statement of clauses has the page of the clauses. -/
theorem page_of_select {c : Clauses} {s : Sql.Select} (h : p.select c = .ok s) :
    s.limit = c.limit ∧ s.offset = c.offset := by
  obtain ⟨filter, t, -, -, rfl⟩ := select_eq_ok.1 h
  exact ⟨rfl, rfl⟩

end Persister

end EntityQuery
