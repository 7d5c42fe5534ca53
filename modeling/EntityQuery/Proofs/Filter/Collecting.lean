import EntityQuery.PlainCriteria
import EntityQuery.Proofs.Filter.Shape
import EntityQuery.Proofs.Parts
import EntityQuery.Proofs.Values

/-!
# What is collected from filters

Something that is collected from an expression from left to right, and from values alike, is
collected from a filter in the order of the comparisons that it is lowered from: a column and the
connectives add nothing to it, parentheses do not hide it. So it is enough to know what is collected
from a literal.
-/

namespace EntityQuery

variable {α : Type} {parts : Sql.Expr → List α} {own : Value → List α}

/-- `parts` collects from left to right, from the literal of a value what `own` collects from the
value. -/
structure Sql.Expr.Collects (parts : Sql.Expr → List α) (own : Value → List α) : Prop where
  literal : ∀ {v l}, Lowering.literal? v = some l → parts (.literal l) = own v
  boolean : ∀ b, parts (.literal (.boolean b)) = []
  null : own .null = []
  list : ∀ items, own (.list items) = items.flatMap own
  rootColumn : ∀ column, parts (rootColumn column) = []
  binary : ∀ left op right, parts (.binary left op right) = parts left ++ parts right
  inList : ∀ operand items negated,
    parts (.inList operand items negated) = parts operand ++ items.flatMap parts
  isNull : ∀ operand negated, parts (.isNull operand negated) = parts operand
  nested : ∀ inner, parts (.nested inner) = parts inner
  raw : ∀ fragment, parts (.raw fragment) = []

namespace Sql.Expr.Collects

variable (h : Collects parts own)
include h

theorem chain (op : BinaryOperator) (empty : Bool) (es : List Expr) :
    parts (Lowering.chain op empty es) = es.flatMap parts := by
  cases es with
  | nil => exact h.boolean empty
  | cons e rest =>
      rw [Lowering.chain]
      induction rest generalizing e with
      | nil => rw [List.foldl_nil, List.flatMap_singleton]
      | cons d rest ih =>
          rw [List.foldl_cons, ih, List.flatMap_cons, List.flatMap_cons, List.flatMap_cons,
            h.binary, List.append_assoc]

/-! ## Lowered conditions -/

theorem literals {items : List Value} {ls : List Literal}
    (each : List.Forall₂ (fun v l => Lowering.literal? v = some l) items ls) :
    (ls.map .literal).flatMap parts = items.flatMap own := by
  induction each with
  | nil => rfl
  | cons first further ih =>
      rw [List.map_cons, List.flatMap_cons, List.flatMap_cons, h.literal first, ih]

theorem comparison {column : String} {op : Operator} {v : Value} {e : Expr}
    (lowered : Lowering.comparison column op v = .ok e) : parts e = own v := by
  cases Lowering.shape_of_comparison lowered with
  | constant => rw [h.boolean, h.list, List.flatMap_nil]
  | nullTest => rw [h.isNull, h.rootColumn, h.null]
  | binary known scalar => rw [h.binary, h.rootColumn, h.literal scalar, List.nil_append]
  | membership scalars =>
      rw [h.inList, h.rootColumn, h.literals scalars, h.list, List.nil_append]

theorem member (c : Condition) (e : Expr) : parts (Lowering.member c e) = parts e := by
  unfold Lowering.member
  split
  · exact h.nested e
  · exact h.nested e
  · rfl

mutual

/-- What is collected from the expression of a condition is collected from the operands of its
comparisons, in the same order. -/
theorem expr : ∀ (c : Condition) {e : Expr}, Lowering.expr c = .ok e →
    parts e = c.comparisons.flatMap fun x => own x.2.2
  | .comparison name op v, e, lowered => by
      rw [Lowering.expr] at lowered
      rw [h.comparison lowered, Condition.comparisons, List.flatMap_singleton]
  | .all members, e, lowered => by
      obtain ⟨es, each, rfl⟩ := Lowering.expr_all_eq_ok.1 lowered
      rw [h.chain, Condition.comparisons, memberExprs members each]
  | .any members, e, lowered => by
      obtain ⟨es, each, rfl⟩ := Lowering.expr_any_eq_ok.1 lowered
      rw [h.chain, Condition.comparisons, memberExprs members each]
  | .raw fragment, e, lowered => by
      rw [Lowering.expr] at lowered
      cases lowered
      rw [h.nested, h.raw, Condition.comparisons, List.flatMap_nil]

theorem memberExprs : ∀ (cs : List Condition) {es : List Expr},
    Lowering.memberExprs cs = .ok es →
      es.flatMap parts = (Condition.allComparisons cs).flatMap fun x => own x.2.2
  | [], es, lowered => by
      rw [Lowering.memberExprs] at lowered
      cases lowered
      rw [Condition.allComparisons, List.flatMap_nil, List.flatMap_nil]
  | c :: cs, es, lowered => by
      obtain ⟨e, others, first, further, rfl⟩ := Lowering.memberExprs_cons_eq_ok.1 lowered
      rw [List.flatMap_cons, h.member, expr c first, memberExprs cs further,
        Condition.allComparisons, List.flatMap_append]

end

/-- What is collected from a filter is collected from the comparisons of its condition. -/
theorem filter {c : Condition} {e? : Option Expr} (lowered : Lowering.filter c = .ok e?) :
    e?.elim [] parts = c.comparisons.flatMap fun x => own x.2.2 := by
  obtain ⟨rfl, rfl⟩ | ⟨-, e, made, rfl⟩ := Lowering.filter_eq_ok.1 lowered
  · rw [Condition.always, Condition.comparisons, Condition.allComparisons]
    rfl
  · exact h.expr c made

/-! ## Plain criteria -/

/-- A value with a literal: every value but a list. -/
theorem plainLiteral {v : Value} (scalar : v.isList = false) :
    parts (PlainCriteria.literal v) = own v := by
  obtain ⟨l, read⟩ : ∃ l, Lowering.literal? v = some l := by
    cases v <;> first | exact ⟨_, rfl⟩ | cases scalar
  rw [PlainCriteria.literal, read]
  exact h.literal read

theorem plainComparison {column : String} {v : Value} (flat : v.isFlat) :
    parts (PlainCriteria.comparison column v) = own v := by
  cases v with
  | null => rw [PlainCriteria.comparison, h.isNull, h.rootColumn, h.null]
  | list items =>
      cases items with
      | nil => rw [PlainCriteria.comparison, h.boolean, h.list, List.flatMap_nil]
      | cons item rest =>
          rw [PlainCriteria.comparison, h.inList, h.rootColumn, h.list, List.nil_append,
            List.flatMap_map]
          have scalars := Value.isFlat_list.1 flat
          exact List.flatMap_congr fun item mem => h.plainLiteral (scalars item mem)
  | _ =>
      rw [PlainCriteria.comparison, h.binary, h.rootColumn, List.nil_append]
      · exact h.plainLiteral rfl
      all_goals simp

theorem plainFilter (es : List Expr) :
    (PlainCriteria.filter es).elim [] parts = es.flatMap parts := by
  cases es with
  | nil => rfl
  | cons e rest => exact h.chain .and true (e :: rest)

end Sql.Expr.Collects

end EntityQuery
