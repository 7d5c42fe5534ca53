import EntityQuery.PlainCriteria
import EntityQuery.Proofs.Parts

/-!
# Changing texts

A condition with the texts that it compares with changed, and an expression with the texts of its
literals changed. Lowering carries one change over to the other, and neither whether a condition can
be lowered nor anything else in its expression depends on what the texts are.
-/

namespace EntityQuery

/-! ## Values -/

namespace Value

mutual

/-- The value with every text in it changed. -/
@[simp] def mapTexts (f : String → String) : Value → Value
  | .null => .null
  | .bool b => .bool b
  | .integer i => .integer i
  | .float d => .float d
  | .text s => .text (f s)
  | .list items => .list (mapAllTexts f items)

/-- The values with every text in them changed. -/
@[simp] def mapAllTexts (f : String → String) : List Value → List Value
  | [] => []
  | v :: rest => mapTexts f v :: mapAllTexts f rest

end

mutual

/-- The texts of a value from left to right. -/
@[simp] def texts : Value → List String
  | .text s => [s]
  | .list items => allTexts items
  | .null | .bool _ | .integer _ | .float _ => []

/-- The texts of values from left to right. -/
@[simp] def allTexts : List Value → List String
  | [] => []
  | v :: rest => texts v ++ allTexts rest

end

variable (f g : String → String)

theorem mapAllTexts_eq_map (items : List Value) : mapAllTexts f items = items.map (mapTexts f) := by
  induction items with
  | nil => rw [mapAllTexts, List.map_nil]
  | cons v rest ih => rw [mapAllTexts, ih, List.map_cons]

theorem allTexts_eq_flatMap (items : List Value) : allTexts items = items.flatMap texts := by
  induction items with
  | nil => rw [allTexts, List.flatMap_nil]
  | cons v rest ih => rw [allTexts, ih, List.flatMap_cons]

theorem mapTexts_list (items : List Value) :
    mapTexts f (.list items) = .list (items.map (mapTexts f)) := by
  rw [mapTexts, mapAllTexts_eq_map]

theorem texts_list (items : List Value) : texts (.list items) = items.flatMap texts := by
  rw [texts, allTexts_eq_flatMap]

mutual

theorem mapTexts_mapTexts : ∀ v : Value, (v.mapTexts f).mapTexts g = v.mapTexts (g ∘ f)
  | .null | .bool _ | .integer _ | .float _ | .text _ => by simp only [mapTexts, Function.comp]
  | .list items => by simp only [mapTexts, mapAllTexts_mapAllTexts]

theorem mapAllTexts_mapAllTexts : ∀ items : List Value,
    mapAllTexts g (mapAllTexts f items) = mapAllTexts (g ∘ f) items
  | [] => by simp only [mapAllTexts]
  | v :: rest => by simp only [mapAllTexts, mapTexts_mapTexts v, mapAllTexts_mapAllTexts rest]

end

mutual

theorem texts_mapTexts : ∀ v : Value, (v.mapTexts f).texts = v.texts.map f
  | .null | .bool _ | .integer _ | .float _ | .text _ => by
      simp only [mapTexts, texts, List.map_cons, List.map_nil]
  | .list items => by simp only [mapTexts, texts, allTexts_mapAllTexts]

theorem allTexts_mapAllTexts : ∀ items : List Value,
    allTexts (mapAllTexts f items) = (allTexts items).map f
  | [] => by simp only [mapAllTexts, allTexts, List.map_nil]
  | v :: rest => by
      simp only [mapAllTexts, allTexts, texts_mapTexts v, allTexts_mapAllTexts rest,
        List.map_append]

end

end Value

/-! ## Conditions -/

namespace Condition

mutual

/-- The condition with every text in it changed. -/
@[simp] def mapTexts (f : String → String) : Condition → Condition
  | .comparison column op v => .comparison column op (v.mapTexts f)
  | .all members => .all (mapAllTexts f members)
  | .any members => .any (mapAllTexts f members)
  | .raw fragment => .raw fragment

/-- The conditions with every text in them changed. -/
@[simp] def mapAllTexts (f : String → String) : List Condition → List Condition
  | [] => []
  | c :: rest => mapTexts f c :: mapAllTexts f rest

end

/-- The texts that a condition compares with, from left to right. -/
def texts (c : Condition) : List String := c.comparisons.flatMap fun x => x.2.2.texts

variable (f : String → String)

theorem mapAllTexts_eq_map (members : List Condition) :
    mapAllTexts f members = members.map (mapTexts f) := by
  induction members with
  | nil => rw [mapAllTexts, List.map_nil]
  | cons c rest ih => rw [mapAllTexts, ih, List.map_cons]

theorem conjuncts_mapTexts (c : Condition) :
    (c.mapTexts f).conjuncts = c.conjuncts.map (mapTexts f) := by
  cases c with
  | all members => rw [mapTexts, conjuncts, conjuncts, mapAllTexts_eq_map]
  | _ => simp only [mapTexts, conjuncts, List.map_cons, List.map_nil]

theorem mapTexts_conj (members : List Condition) :
    (conj members).mapTexts f = conj (members.map (mapTexts f)) := by
  have flat : (members.map (mapTexts f)).flatMap conjuncts =
      (members.flatMap conjuncts).map (mapTexts f) := by
    rw [List.flatMap_map, List.map_flatMap]
    simp only [conjuncts_mapTexts]
  rw [conj, conj, flat]
  cases members.flatMap conjuncts with
  | nil => simp only [List.map_nil, mapTexts, mapAllTexts]
  | cons c rest =>
      cases rest with
      | nil => rfl
      | cons d rest => simp only [List.map_cons, mapTexts, mapAllTexts, mapAllTexts_eq_map]

theorem isTrivial_mapTexts (c : Condition) : (c.mapTexts f).isTrivial = c.isTrivial := by
  match c with
  | .comparison column op v => rw [mapTexts]; rfl
  | .all [] => rw [mapTexts, mapAllTexts]
  | .all (c :: rest) => rw [mapTexts, mapAllTexts]; rfl
  | .any members => rw [mapTexts]; rfl
  | .raw fragment => rw [mapTexts]

theorem texts_conj (members : List Condition) : texts (conj members) = members.flatMap texts := by
  rw [texts, comparisons_conj, List.flatMap_assoc]
  rfl

theorem texts_comparison (column : String) (op : Operator) (v : Value) :
    texts (.comparison column op v) = v.texts := by
  rw [texts, comparisons, List.flatMap_singleton]

end Condition

/-! ## Expressions -/

namespace Sql

/-- The literal with its text changed, if it is one. -/
def Literal.mapText (f : String → String) : Literal → Literal
  | .string s => .string (f s)
  | l => l

mutual

/-- The expression with the texts of its literals changed. -/
@[simp] def Expr.mapTexts (f : String → String) : Expr → Expr
  | .column table name => .column table name
  | .literal l => .literal (l.mapText f)
  | .binary left op right => .binary (left.mapTexts f) op (right.mapTexts f)
  | .aggregate name arguments distinct => .aggregate name (Expr.mapAllTexts f arguments) distinct
  | .inList operand items negated => .inList (operand.mapTexts f) (Expr.mapAllTexts f items) negated
  | .isNull operand negated => .isNull (operand.mapTexts f) negated
  | .wildcard => .wildcard
  | .nested inner => .nested (inner.mapTexts f)
  | .raw fragment => .raw fragment

/-- The expressions with the texts of their literals changed. -/
@[simp] def Expr.mapAllTexts (f : String → String) : List Expr → List Expr
  | [] => []
  | e :: rest => e.mapTexts f :: Expr.mapAllTexts f rest

end

theorem Expr.mapAllTexts_eq_map (f : String → String) (es : List Expr) :
    Expr.mapAllTexts f es = es.map (Expr.mapTexts f) := by
  induction es with
  | nil => rw [Expr.mapAllTexts, List.map_nil]
  | cons e rest ih => rw [Expr.mapAllTexts, ih, List.map_cons]

end Sql

namespace Lowering

variable (f : String → String)

theorem literal?_mapTexts (v : Value) :
    literal? (v.mapTexts f) = (literal? v).map (Sql.Literal.mapText f) := by
  cases v <;> simp only [Value.mapTexts] <;> rfl

theorem literal_mapTexts (column : String) (v : Value) :
    literal column (v.mapTexts f) = (literal column v).map (Sql.Expr.mapTexts f) := by
  rw [literal, literal, literal?_mapTexts]
  cases literal? v with
  | none => rfl
  | some l => simp only [Option.map_some, Except.map, Sql.Expr.mapTexts]

theorem literals_mapTexts (column : String) (items : List Value) :
    (items.map (Value.mapTexts f)).mapM (literal column) =
      (items.mapM (literal column)).map (List.map (Sql.Expr.mapTexts f)) := by
  induction items with
  | nil => rfl
  | cons v rest ih =>
      rw [List.map_cons, List.mapM_cons, List.mapM_cons, literal_mapTexts, ih]
      cases literal column v with
      | error e => rfl
      | ok e => cases rest.mapM (literal column) <;> rfl

theorem comparison_mapTexts (column : String) (op : Operator) (v : Value) :
    comparison column op (v.mapTexts f) = (comparison column op v).map (Sql.Expr.mapTexts f) := by
  cases v with
  | list items =>
      -- Without items a membership test is a constant; for other operators a list is refused.
      cases items with
      | nil => cases op <;> rfl
      | cons v rest =>
          have literals := literals_mapTexts f column (v :: rest)
          rw [Value.mapTexts_list]
          cases op with
          | isIn | notIn =>
              change ((v :: rest).map (Value.mapTexts f)).mapM (literal column) >>= _ =
                ((v :: rest).mapM (literal column) >>= _).map _
              rw [literals]
              cases (v :: rest).mapM (literal column) with
              | error e => rfl
              | ok es =>
                  simp only [Except.map, bind, Except.bind, Sql.Expr.mapTexts,
                    Sql.Expr.mapAllTexts_eq_map]
                  rfl
          | _ => rfl
  | _ => cases op <;> rfl

theorem member_mapTexts (c : Condition) (e : Sql.Expr) :
    member (c.mapTexts f) (e.mapTexts f) = (member c e).mapTexts f := by
  match c with
  | .comparison column op v => rw [Condition.mapTexts]; rfl
  | .all [] | .all [_] | .all (_ :: _ :: _) | .any [] | .any [_] | .any (_ :: _ :: _) =>
      simp only [Condition.mapTexts, Condition.mapAllTexts]
      rfl
  | .raw fragment => rw [Condition.mapTexts]; rfl

theorem chain_mapTexts (op : Sql.BinaryOperator) (empty : Bool) (es : List Sql.Expr) :
    chain op empty (es.map (Sql.Expr.mapTexts f)) = (chain op empty es).mapTexts f := by
  cases es with
  | nil => rfl
  | cons e rest =>
      rw [List.map_cons, chain, chain, List.foldl_map]
      induction rest generalizing e with
      | nil => rfl
      | cons d rest ih =>
          have first : (Sql.Expr.binary e op d).mapTexts f =
              .binary (e.mapTexts f) op (d.mapTexts f) := by
            rw [Sql.Expr.mapTexts]
          rw [List.foldl_cons, List.foldl_cons, ← ih, first]

mutual

/-- Lowering a condition with other texts changes the text literals of its expression, and whether
there is one does not depend on them. -/
theorem expr_mapTexts : ∀ c : Condition,
    expr (c.mapTexts f) = (expr c).map (Sql.Expr.mapTexts f)
  | .comparison column op v => by
      rw [Condition.mapTexts, expr, expr]
      exact comparison_mapTexts f column op v
  | .all members => by
      rw [Condition.mapTexts, expr, expr, memberExprs_mapTexts members]
      cases memberExprs members with
      | error e => rfl
      | ok es => exact congrArg Except.ok (chain_mapTexts f .and true es)
  | .any members => by
      rw [Condition.mapTexts, expr, expr, memberExprs_mapTexts members]
      cases memberExprs members with
      | error e => rfl
      | ok es => exact congrArg Except.ok (chain_mapTexts f .or false es)
  | .raw fragment => by
      rw [Condition.mapTexts, expr]
      rfl

theorem memberExprs_mapTexts : ∀ members : List Condition,
    memberExprs (Condition.mapAllTexts f members) =
      (memberExprs members).map (List.map (Sql.Expr.mapTexts f))
  | [] => by
      rw [Condition.mapAllTexts, memberExprs]
      rfl
  | c :: rest => by
      rw [Condition.mapAllTexts, memberExprs, memberExprs, expr_mapTexts c,
        memberExprs_mapTexts rest]
      cases expr c with
      | error e => rfl
      | ok e =>
          cases memberExprs rest with
          | error e => rfl
          | ok es =>
              change Except.ok (_ :: es.map _) = Except.ok (_ :: es.map _)
              rw [member_mapTexts]

end

theorem filter_mapTexts (c : Condition) :
    filter (c.mapTexts f) = (filter c).map (Option.map (Sql.Expr.mapTexts f)) := by
  rw [filter, filter, c.isTrivial_mapTexts, expr_mapTexts]
  split
  · rfl
  · cases expr c <;> rfl

end Lowering

namespace PlainCriteria

variable (f : String → String)

theorem literal_mapTexts (v : Value) : literal (v.mapTexts f) = (literal v).mapTexts f := by
  rw [literal, literal, Lowering.literal?_mapTexts, Sql.Expr.mapTexts]
  cases Lowering.literal? v <;> rfl

theorem comparison_mapTexts (column : String) (v : Value) :
    comparison column (v.mapTexts f) = (comparison column v).mapTexts f := by
  cases v with
  | list items =>
      cases items with
      | nil => rfl
      | cons v rest =>
          have literals : (v :: rest).map (literal ∘ Value.mapTexts f) =
              (v :: rest).map (Sql.Expr.mapTexts f ∘ literal) :=
            List.map_congr_left fun v _ => literal_mapTexts f v
          rw [Value.mapTexts_list, List.map_cons, comparison, comparison, ← List.map_cons,
            List.map_map, literals, Sql.Expr.mapTexts, Sql.Expr.mapAllTexts_eq_map, List.map_map]
          rfl
  | _ => rfl

theorem filter_mapTexts (es : List Sql.Expr) :
    filter (es.map (Sql.Expr.mapTexts f)) = (filter es).map (Sql.Expr.mapTexts f) := by
  cases es with
  | nil => rfl
  | cons e rest => exact congrArg some (Lowering.chain_mapTexts f .and true (e :: rest))

end PlainCriteria

end EntityQuery
