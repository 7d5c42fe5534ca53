import EntityQuery.Proofs.Filter.Grouping

/-!
# The WHERE clause of a statement

A statement has a WHERE clause exactly if its condition is not the one that always holds, and what
is read in this clause is true, false or unknown on a row exactly as the condition is.
-/

namespace EntityQuery

namespace Sql.Select

/-- The clauses in front of the filter. -/
def front (s : Select) : List String :=
  ["SELECT " ++ (if s.distinct then "DISTINCT " else "") ++ projectionText s.projections] ++
    clause "FROM" (s.source.map Source.text)

/-- The clauses behind the filter. -/
def back (s : Select) : List String :=
  clause "ORDER BY" (orderText s.order) ++ clause "LIMIT" (s.limit.map toString) ++
    clause "OFFSET" (s.offset.map toString)

theorem text_eq (s : Select) :
    s.text = " ".intercalate (s.front ++ (clause "WHERE" (s.filter.map Expr.text) ++ s.back)) := by
  obtain ⟨distinct, projections, source, filter, order, limit, offset⟩ := s
  cases source <;>
  · simp only [Select.text, assemble, front, back, Select.distinct, Select.projections,
      Select.source, Select.filter, Select.order, Select.limit, Select.offset, Option.map_none,
      Option.map_some, List.append_assoc]
    rfl

end Sql.Select

namespace Meaning

open ConditionText

variable {α : Type}

/-- Only the condition that always holds has no filter. -/
theorem filter_eq_none {c : Condition} {f : Option Sql.Expr} (h : Lowering.filter c = .ok f) :
    f = none ↔ c = .always := by
  obtain ⟨rfl, rfl⟩ | ⟨other, e, -, rfl⟩ := Lowering.filter_eq_ok.1 h
  · simp
  · simpa using other

/-- The condition that always holds is lowered to no filter, and its statement has no WHERE clause.
Any other condition that can be lowered has a filter, which is the WHERE clause of its statement;
read back, this clause is true, false or unknown on a row as the condition is. -/
theorem filter_truth (m : Meaning α) (piece : String → Truth) {c : Condition}
    {f : Option Sql.Expr} (lowered : Lowering.filter c = .ok f) (readable : m.Readable piece c)
    (s : Sql.Select) (filter : s.filter = f) :
    (c = .always ∧ m.condition piece c = some true ∧
        s.text = " ".intercalate (s.front ++ s.back)) ∨
      c ≠ .always ∧ ∃ e, f = some e ∧
        s.text = " ".intercalate (s.front ++ ("WHERE " ++ e.text) :: s.back) ∧
        m.Says e.text (m.condition piece c) := by
  cases f with
  | none =>
      obtain rfl := (filter_eq_none lowered).1 rfl
      refine .inl ⟨rfl, Condition.truth_always _ _, ?_⟩
      rw [s.text_eq, filter]
      rfl
  | some e =>
      have other : c ≠ .always := fun always => nomatch (filter_eq_none lowered).2 always
      refine .inr ⟨other, e, rfl, ?_, ?_⟩
      · rw [s.text_eq, filter]
        rfl
      · have nonTrivial : c.isTrivial = false := by
          rw [← Bool.not_eq_true, Condition.isTrivial_iff]
          exact other
        rw [Lowering.filter, nonTrivial] at lowered
        obtain ⟨e, expr, same⟩ := map_eq_ok.1 lowered
        cases same
        obtain ⟨need, written⟩ := says_expr c expr readable
        exact m.says_of_written written c.floor_pos

/-- A row with the age of twenty and nothing else, in a database that knows numbers only. -/
def agedTwenty : Meaning (Option ℚ) where
  column name := if name = "age" then some 20 else none
  null := none
  bool _ := none
  number := some
  text _ := none
  isNull := Option.isNone
  compare op a b :=
    match a, b with
    | some x, some y =>
      match op with
      | .lt => some (x < y)
      | .gtEq => some (y ≤ x)
      | _ => none
    | _, _ => none
  like _ _ := none
  otherValue _ := none
  otherTruth _ := none

/-- Adults with a balance, and whoever a piece of SQL says so of. -/
def adultsOrInfants : Condition :=
  .any [.all [.comparison "age" .gtEq (.integer 18),
      .comparison "balance" .gtEq (.float ⟨0x3FE0000000000000⟩)],
    .all [.any [.raw "age < 1 OR age IS NULL"]], .comparison "id" .isIn (.list [])]

/-- The filter that the condition is lowered to. -/
def adultsOrInfantsFilter : Sql.Expr :=
  let adult : Sql.Expr := .binary (rootColumn "age") .gtEq (.literal (.integer 18))
  let solvent : Sql.Expr :=
    .binary (rootColumn "balance") .gtEq (.literal (.float ⟨0x3FE0000000000000⟩))
  let infant : Sql.Expr := .nested (.raw "age < 1 OR age IS NULL")
  .binary (.binary (.nested (.binary adult .and solvent)) .or infant) .or
    (.literal (.boolean false))

theorem agedTwenty_piece : agedTwenty.SaysInside "age < 1 OR age IS NULL" (some false) := by
  have age : WrittenOperand 0 "age" fun e => agedTwenty.value e = some 20 := by
    refine (WrittenOperand.name (by decide) (by decide)).mono (Nat.le_refl _) ?_
    rintro e ⟨extent, rfl⟩
    rfl
  have one : WrittenOperand 0 "1" fun e => agedTwenty.value e = some 1 := by
    refine (WrittenOperand.number (.of_digits (by decide) (by decide))).mono (Nat.le_refl _) ?_
    rintro e rfl
    exact (agedTwenty.value_of_digits (Double.rational?_toString 1)).1
  have young := age.comparison .lt (one.toWritten 60) (by decide)
    (R := fun e => agedTwenty.truth e = some false) fun e e' left right => by
      rw [truth_of_comparisonOperator rfl, left, right]
      simp [agedTwenty]
  have absent := age.nullTest .plain (R := fun e => agedTwenty.truth e = some false)
    fun e operand => by
      rw [truth, operand]
      rfl
  have either := young.connective .or (by decide) absent (by decide)
    (R := fun e => agedTwenty.truth e = some false) fun e e' left right => by
      rw [truth, left, right]
      rfl
  exact ⟨_, either.enclosed (by decide)⟩

theorem adultsOrInfants_readable :
    agedTwenty.Readable (fun _ => some false) adultsOrInfants where
  columns := by decide
  finite := by
    simp [adultsOrInfants, Condition.comparisons, Condition.allComparisons, Finite,
      QueryText.isInfinite]
    decide
  fragments := by
    simp [adultsOrInfants, Condition.fragments, Condition.allFragments, agedTwenty_piece]

/-- On a row without a balance the condition is unknown, and so is the WHERE clause of its
statement. -/
theorem adultsOrInfants_where :
    Lowering.filter adultsOrInfants = .ok (some adultsOrInfantsFilter) ∧
      adultsOrInfantsFilter.text =
        "(e.age >= 18 AND e.balance >= 0.5) OR (age < 1 OR age IS NULL) OR FALSE" ∧
      agedTwenty.condition (fun _ => some false) adultsOrInfants = none ∧
      agedTwenty.Says adultsOrInfantsFilter.text none := by
  have lowered : Lowering.filter adultsOrInfants = .ok (some adultsOrInfantsFilter) := rfl
  have unknown : agedTwenty.condition (fun _ => some false) adultsOrInfants = none := by
    have adult : agedTwenty.comparison "age" .gtEq (.integer 18) = some true := by
      have eighteen : (18 : Int64).toInt = 18 := rfl
      have low : (18 : ℚ) ≤ 20 := by decide
      simp [comparison, agedTwenty, datum, eighteen, low]
    have solvent : agedTwenty.comparison "balance" .gtEq (.float ⟨0x3FE0000000000000⟩) = none := rfl
    have nobody : agedTwenty.comparison "id" .isIn (.list []) = some false := rfl
    simp only [adultsOrInfants, condition_any, condition_all, condition_comparison, condition_raw,
      List.map_cons, List.map_nil, adult, solvent, nobody]
    rfl
  refine ⟨lowered, by decide, unknown, ?_⟩
  let statement : Sql.Select :=
    ⟨false, [.allOf "e"], none, some adultsOrInfantsFilter, [], some 10, none⟩
  obtain ⟨always, -⟩ | ⟨-, e, same, -, holds⟩ :=
    agedTwenty.filter_truth _ lowered adultsOrInfants_readable statement rfl
  · cases always
  · cases same
    rwa [unknown] at holds

end Meaning

end EntityQuery
