import EntityQuery.QueryText
import EntityQuery.Proofs.Memory
import EntityQuery.Proofs.Result

/-!
# The grammar of query text

Query text is documented as a small part of what reading takes: tests of a field against literals
between connectives and parentheses, and for whole queries sort keys with a direction, a limit and
an offset. The grammar is said here of expressions and statements as they are read.

Narrowing gives a result on this part only, with one exception: it neither keeps nor refuses what
a pattern test says besides its pattern and what a sort key says of nulls. The plain form of an
expression or a statement leaves these out, and narrowing cannot tell it from the original.
-/

namespace EntityQuery

open QueryText

namespace ConditionText

/-- All elements pass a check if all their images pass another one and none has what makes the
difference. -/
theorem all_eq_of_forall {α : Type} {p q r : α → Bool} {f : α → α}
    (h : ∀ a, p a = (q (f a) && !r a)) (as : List α) :
    as.all p = ((as.map f).all q && !as.any r) := by
  induction as with
  | nil => rfl
  | cons a as ih =>
      rw [List.all_cons, List.map_cons, List.all_cons, List.any_cons, h, ih, Bool.not_or]
      ac_rfl

namespace Expr

/-- Whether an expression names a field, possibly behind a name that is dropped. -/
def isField (e : Expr) : Bool := (field? e).isSome

/-- Whether an expression is a literal; infinite numbers are none. -/
def isLiteral (e : Expr) : Bool := (value? e).any fun v => !isInfinite v

/-- Whether an expression is a natural number that fits a machine word. -/
def isNatural (e : Expr) : Bool := (natural? e).isSome

/-- Whether an expression is a test of a field against literals. -/
def isTest : Expr → Bool
  | binary target op operand =>
    (comparisonOperator? op).isSome && target.isField && operand.isLiteral
  | like _ any target pattern escape =>
    !any && escape.isNone && target.isField && pattern.isLiteral
  | inList target items _ => target.isField && items.all isLiteral
  | isNull target _ => target.isField
  | _ => false

/-- The expressions that an expression joins by connectives and parentheses. -/
def tests : Expr → List Expr
  | binary left .and right => left.tests ++ right.tests
  | binary left .or right => left.tests ++ right.tests
  | nested inner => inner.tests
  | e => [e]

/-- Whether an expression joins others. -/
def isJoined : Expr → Bool
  | binary _ .and _ => true
  | binary _ .or _ => true
  | nested _ => true
  | _ => false

/-- Whether an expression has no parts that a condition is told by. -/
def isAtom : Expr → Bool
  | ident _ | compound _ | constant _ | signed _ _ | subquery _ | other _ => true
  | _ => false

/-- Whether an expression belongs to the documented grammar of conditions. -/
def isDocumented (e : Expr) : Bool := e.tests.all isTest

/-- The expression without what its pattern tests say besides their patterns. -/
def plain : Expr → Expr
  | binary left .and right => binary left.plain .and right.plain
  | binary left .or right => binary left.plain .or right.plain
  | nested inner => nested inner.plain
  | like negated _ target pattern _ => like negated false target pattern none
  | e => e

/-- Whether an expression is a pattern test that says more than its pattern: that it ranges over
several patterns, or which character quotes the wildcards. -/
def saysMore : Expr → Bool
  | like _ any _ _ escape => any || escape.isSome
  | _ => false

theorem tests_connective {left right : Expr} {op : BinaryOp} (connects : op = .and ∨ op = .or) :
    (binary left op right).tests = left.tests ++ right.tests := by
  obtain rfl | rfl := connects <;> rw [tests]

theorem tests_single {t : Expr} (single : t.isJoined = false) : t.tests = [t] := by
  refine tests.eq_4 t ?_ ?_ ?_
  · rintro left right rfl
    cases single
  · rintro left right rfl
    cases single
  · rintro inner rfl
    cases single

theorem not_connective_of_single {left right : Expr} {op : BinaryOp}
    (single : (binary left op right).isJoined = false) : op ≠ .and ∧ op ≠ .or := by
  constructor <;>
    · rintro rfl
      cases single

/-- An expression joins two others by a connective, encloses another one, or is a test alone. -/
@[elab_as_elim]
theorem joined_induction {motive : Expr → Prop}
    (connective : ∀ left op right, op = .and ∨ op = .or → motive left → motive right →
      motive (binary left op right))
    (enclosed : ∀ inner, motive inner → motive (nested inner))
    (single : ∀ t, t.isJoined = false → motive t) (e : Expr) : motive e := by
  induction e using tests.induct with
  | case1 left right ihl ihr => exact connective left .and right (.inl rfl) ihl ihr
  | case2 left right ihl ihr => exact connective left .or right (.inr rfl) ihl ihr
  | case3 inner ih => exact enclosed inner ih
  | case4 e notAnd notOr notNested => exact single e (isJoined.eq_4 e notAnd notOr notNested)

theorem isJoined_of_mem_tests {e t : Expr} (mem : t ∈ e.tests) : t.isJoined = false := by
  induction e using joined_induction with
  | connective left op right connects ihl ihr =>
      rw [tests_connective connects, List.mem_append] at mem
      exact mem.elim ihl ihr
  | enclosed inner ih =>
      rw [tests] at mem
      exact ih mem
  | single e alone =>
      rw [tests_single alone, List.mem_singleton] at mem
      rwa [mem]

theorem tests_plain (e : Expr) : e.plain.tests = e.tests.map plain := by
  induction e using plain.induct with
  | case1 left right ihl ihr => simp only [plain, tests, ihl, ihr, List.map_append]
  | case2 left right ihl ihr => simp only [plain, tests, ihl, ihr, List.map_append]
  | case3 inner ih => simp only [plain, tests, ih]
  | case4 => rfl
  | case5 e notAnd notOr notNested notLike =>
      have same : e.plain = e := plain.eq_5 e notAnd notOr notNested notLike
      have alone : e.tests = [e] := tests.eq_4 e notAnd notOr notNested
      rw [same, alone, List.map_singleton, same]

/-- A test is documented if its plain form is and it says no more. -/
theorem isTest_eq (e : Expr) : e.isTest = (e.plain.isTest && !e.saysMore) := by
  cases e with
  | like negated any target pattern escape =>
      cases any <;> cases escape <;> simp [isTest, plain, saysMore]
  | binary left op right =>
      cases op <;> simp [isTest, plain, saysMore, comparisonOperator?]
  | _ => simp [isTest, plain, saysMore]

/-- An expression is documented if its plain form is and none of its tests says more. -/
theorem isDocumented_eq (e : Expr) :
    e.isDocumented = (e.plain.isDocumented && !e.tests.any saysMore) := by
  rw [isDocumented, isDocumented, tests_plain]
  exact all_eq_of_forall isTest_eq e.tests

end Expr

namespace OrderTerm

/-- Whether a sort key belongs to the documented grammar: it is a field with a direction. -/
def isDocumented (t : OrderTerm) : Bool := t.key.isField && t.nullsFirst.isNone

/-- The sort key without what it says of nulls. -/
def plain (t : OrderTerm) : OrderTerm := { t with nullsFirst := none }

theorem isDocumented_eq (t : OrderTerm) :
    t.isDocumented = (t.plain.isDocumented && !t.nullsFirst.isSome) := by
  cases nulls : t.nullsFirst <;> simp [isDocumented, plain, nulls]

end OrderTerm

namespace Statement

/-- The sort keys of a statement. -/
def keys (s : Statement) : List OrderTerm := s.tail.order.getD []

/-- Whether a statement is a single selection with no clauses but those of queries. -/
def isSimple (s : Statement) : Bool :=
  !s.combined && !s.select.grouped && !(s.select.further || s.tail.further)

/-- Whether a statement belongs to the documented grammar of queries. -/
def isDocumented (s : Statement) : Bool :=
  s.isSimple && s.condition.isDocumented && s.keys.all OrderTerm.isDocumented &&
    s.tail.limit.all Expr.isNatural && s.tail.offset.all Expr.isNatural

/-- The statement without what its pattern tests and sort keys say besides. -/
def plain (s : Statement) : Statement :=
  { s with
    condition := s.condition.plain
    tail := { s.tail with order := s.tail.order.map (·.map OrderTerm.plain) } }

/-- Whether a pattern test or a sort key of a statement says more than narrowing keeps. -/
def saysMore (s : Statement) : Bool :=
  s.condition.tests.any Expr.saysMore || s.keys.any (·.nullsFirst.isSome)

theorem keys_plain (s : Statement) : s.plain.keys = s.keys.map OrderTerm.plain := by
  cases order : s.tail.order <;> simp [keys, plain, order]

/-- A statement is documented if its plain form is and it says no more. -/
theorem isDocumented_eq (s : Statement) :
    s.isDocumented = (s.plain.isDocumented && !s.saysMore) := by
  have keys := all_eq_of_forall OrderTerm.isDocumented_eq s.keys
  have simple : s.plain.isSimple = s.isSimple := rfl
  rw [isDocumented, isDocumented, keys_plain, simple, Expr.isDocumented_eq, keys, saysMore,
    Bool.not_or]
  simp only [plain]
  ac_rfl

end Statement

end ConditionText

end EntityQuery
