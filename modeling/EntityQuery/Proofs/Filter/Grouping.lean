import EntityQuery.Proofs.Filter.Lowered
import EntityQuery.Proofs.Filter.Shape
import EntityQuery.Proofs.Parts

/-!
# The grouping of filters

A chain prints its members one after the other, so each has to bind tighter than the connective. The
lowering puts a member in parentheses exactly where it is a connective of several members; a
connective of one member is this member and one of none a truth value, and these stay bare. The
induction is over the condition: the invariant is how tight its text binds, `Condition.floor`.
-/

namespace EntityQuery

open ConditionText Parse

namespace Condition

/-- How tight the text of a lowered condition binds at least. -/
def floor : Condition → Nat
  | all (_ :: _ :: _) => Strength.conjunction.rank
  | any (_ :: _ :: _) => Strength.disjunction.rank
  | _ => Strength.test.rank

theorem floor_pos (c : Condition) : 0 < c.floor := by
  unfold floor
  split <;> decide

end Condition

namespace Meaning

variable {α : Type} {m : Meaning α} {piece : String → Truth}

/-- The parts of a condition have texts that can be read back: its columns are plain words, its
floats are numbers, and each piece of SQL is one complete expression that says what it is taken to
say. -/
structure Readable (m : Meaning α) (piece : String → Truth) (c : Condition) : Prop where
  columns : ∀ x ∈ c.comparisons, isPlainWord x.1.toList
  finite : ∀ x ∈ c.comparisons, Finite x.2.2
  fragments : ∀ f ∈ c.fragments, m.SaysInside f (piece f)

/-- The parts of a connective are those of its members. -/
theorem Readable.member {members : List Condition} {c : Condition}
    (h : m.Readable piece (.all members) ∨ m.Readable piece (.any members)) (mem : c ∈ members) :
    m.Readable piece c := by
  have comparisons {x : String × Operator × Value} (part : x ∈ c.comparisons) :
      x ∈ Condition.allComparisons members := Condition.mem_allComparisons.2 ⟨c, mem, part⟩
  have fragments {f : String} (part : f ∈ c.fragments) : f ∈ Condition.allFragments members :=
    Condition.mem_allFragments.2 ⟨c, mem, part⟩
  obtain ⟨columns, finite, pieces⟩ | ⟨columns, finite, pieces⟩ := h
  · simp only [Condition.comparisons, Condition.fragments] at columns finite pieces
    exact ⟨fun x part => columns x (comparisons part), fun x part => finite x (comparisons part),
      fun f part => pieces f (fragments part)⟩
  · simp only [Condition.comparisons, Condition.fragments] at columns finite pieces
    exact ⟨fun x part => columns x (comparisons part), fun x part => finite x (comparisons part),
      fun f part => pieces f (fragments part)⟩

/-! ## Chains -/

theorem text_foldl_binary (op : Sql.BinaryOperator) (first : Sql.Expr) (rest : List Sql.Expr) :
    (rest.foldl (fun left right => .binary left op right) first).text =
      rest.foldl (fun s e => s ++ (" " ++ op.text ++ " ") ++ e.text) first.text := by
  induction rest generalizing first with
  | nil => rfl
  | cons e rest ih =>
      rw [List.foldl_cons, ih, List.foldl_cons, Sql.Expr.text]
      simp only [String.append_assoc]

theorem exists_bound {β : Type} {P : Nat → β → Prop} {as : List β} (h : ∀ a ∈ as, ∃ n, P n a) :
    ∃ bound, ∀ a ∈ as, ∃ n, n < bound ∧ P n a := by
  induction as with
  | nil => exact ⟨0, by simp⟩
  | cons a as ih =>
      obtain ⟨n, here⟩ := h a List.mem_cons_self
      obtain ⟨bound, later⟩ := ih fun b mem => h b (List.mem_cons_of_mem a mem)
      refine ⟨max (n + 1) bound, fun b mem => ?_⟩
      obtain rfl | mem := List.mem_cons.1 mem
      · exact ⟨n, Nat.lt_of_lt_of_le (Nat.lt_succ_self n) (Nat.le_max_left _ _), here⟩
      · obtain ⟨k, low, there⟩ := later b mem
        exact ⟨k, Nat.lt_of_lt_of_le low (Nat.le_max_right _ _), there⟩

/-- A chain says what its members say together, for either connective: each of them binds tighter
than the connective. -/
theorem says_chain {op : BinaryOp} {rank : Nat} (word : Sql.BinaryOperator)
    (connective : Connective word.text op rank) (low : rank < Strength.test.rank)
    {join : List Truth → Truth} (single : ∀ t, join [t] = t)
    (joins : ∀ done t e e', m.truth e = join done → m.truth e' = t →
      m.truth (.binary e op e') = join (done ++ [t]))
    {empty : Bool} {first : Sql.Expr × Truth} {rest : List (Sql.Expr × Truth)}
    (items : ∀ x ∈ first :: rest, m.SaysAt Strength.test.rank x.1.text x.2) :
    m.SaysAt rank (Lowering.chain word empty ((first :: rest).map (·.1))).text
      (join ((first :: rest).map (·.2))) := by
  obtain ⟨bound, further⟩ := exists_bound fun x mem => items x (List.mem_cons_of_mem first mem)
  obtain ⟨need, written⟩ := items first List.mem_cons_self
  let soFar (done : List (Sql.Expr × Truth)) (e : Expr) : Prop := m.truth e = join (done.map (·.2))
  have front : Written (max need bound) rank first.1.text (soFar [first]) := by
    refine written.mono (Nat.le_max_left _ _) (Nat.le_of_lt low) fun e said => ?_
    exact said.trans (single first.2).symm
  have more (done : List (Sql.Expr × Truth)) (x : Sql.Expr × Truth) (e e' : Expr)
      (before : soFar done e) (said : m.truth e' = x.2) :
      soFar (done ++ [x]) (.binary e op e') := by
    have joined := joins _ _ e e' before said
    simpa only [soFar, List.map_append, List.map_cons, List.map_nil] using joined
  have members : ∀ x ∈ rest, ∃ n, n < max need bound ∧
      Written n Strength.test.rank x.1.text fun e => m.truth e = x.2 := by
    intro x mem
    obtain ⟨n, lower, written⟩ := further x mem
    exact ⟨n, Nat.lt_of_lt_of_le lower (Nat.le_max_right _ _), written⟩
  have chain := Written.chain connective more front low members
  rw [List.map_cons, Lowering.chain, text_foldl_binary, List.foldl_map]
  exact ⟨_, chain⟩

/-- A chain of any number of members binds as tight as the condition it comes from. -/
theorem says_all {members : List Condition} {items : List (Sql.Expr × Truth)}
    (same : items.length = members.length)
    (said : ∀ x ∈ items, m.SaysAt Strength.test.rank x.1.text x.2) :
    m.SaysAt (Condition.all members).floor (Lowering.chain .and true (items.map (·.1))).text
      (Truth.all (items.map (·.2))) := by
  match items, members, same with
  | [], [], _ => exact says_boolean true _
  | [x], [c], _ =>
      rw [List.map_singleton, List.map_singleton, Truth.all_singleton]
      exact said x List.mem_cons_self
  | x :: y :: rest, c :: d :: others, _ =>
      change m.SaysAt Strength.conjunction.rank _ _
      refine says_chain .and .and (by decide) Truth.all_singleton
        (fun done t e e' before here => ?_) said
      rw [truth, before, here, Truth.all_snoc]

theorem says_any {members : List Condition} {items : List (Sql.Expr × Truth)}
    (same : items.length = members.length)
    (said : ∀ x ∈ items, m.SaysAt Strength.test.rank x.1.text x.2) :
    m.SaysAt (Condition.any members).floor (Lowering.chain .or false (items.map (·.1))).text
      (Truth.any (items.map (·.2))) := by
  match items, members, same with
  | [], [], _ => exact says_boolean false _
  | [x], [c], _ =>
      rw [List.map_singleton, List.map_singleton, Truth.any_singleton]
      exact said x List.mem_cons_self
  | x :: y :: rest, c :: d :: others, _ =>
      change m.SaysAt Strength.disjunction.rank _ _
      refine says_chain .or .or (by decide) Truth.any_singleton
        (fun done t e e' before here => ?_) said
      rw [truth, before, here, Truth.any_snoc]

/-! ## Conditions -/

/-- In parentheses or not, a member binds tighter than both connectives. -/
theorem says_member {c : Condition} {e : Sql.Expr} {t : Truth} (h : m.SaysAt c.floor e.text t) :
    m.SaysAt Strength.test.rank (Lowering.member c e).text t := by
  have nested : m.SaysAt Strength.test.rank (Sql.Expr.nested e).text t := by
    obtain ⟨need, written⟩ := h
    rw [Sql.Expr.text]
    refine .of_operand ((written.enclosed c.floor_pos).parentheses fun e said => ?_) _
    rwa [truth]
  unfold Lowering.member
  unfold Condition.floor at h
  split
  · exact nested
  · exact nested
  · next noAll noAny =>
      split at h
      · exact absurd rfl (noAll _ _ _)
      · exact absurd rfl (noAny _ _ _)
      · exact h

mutual

/-- What a condition is lowered to says what the condition says. -/
theorem says_expr : ∀ (c : Condition) {e : Sql.Expr}, Lowering.expr c = .ok e →
    m.Readable piece c → m.SaysAt c.floor e.text (m.condition piece c)
  | .comparison column op v, e, lowered, readable => by
      rw [Lowering.expr] at lowered
      rw [condition_comparison]
      have part : (column, op, v) ∈ (Condition.comparison column op v).comparisons := by
        rw [Condition.comparisons]
        exact List.mem_cons_self
      exact says_comparison (readable.columns _ part) (readable.finite _ part) lowered
  | .all members, e, lowered, readable => by
      obtain ⟨es, each, rfl⟩ := Lowering.expr_all_eq_ok.1 lowered
      obtain ⟨items, rfl, truths, said⟩ :=
        says_members members each fun c mem => .member (.inl readable) mem
      have same : items.length = members.length := by
        rw [← List.length_map (·.2), truths, List.length_map]
      rw [condition_all, ← truths]
      exact says_all same said
  | .any members, e, lowered, readable => by
      obtain ⟨es, each, rfl⟩ := Lowering.expr_any_eq_ok.1 lowered
      obtain ⟨items, rfl, truths, said⟩ :=
        says_members members each fun c mem => .member (.inr readable) mem
      have same : items.length = members.length := by
        rw [← List.length_map (·.2), truths, List.length_map]
      rw [condition_any, ← truths]
      exact says_any same said
  | .raw fragment, e, lowered, readable => by
      rw [Lowering.expr] at lowered
      cases lowered
      have part : fragment ∈ (Condition.raw fragment).fragments := by
        rw [Condition.fragments]
        exact List.mem_cons_self
      obtain ⟨need, enclosed⟩ := readable.fragments fragment part
      rw [condition_raw, Sql.Expr.text, Sql.Expr.text]
      refine .of_operand (enclosed.parentheses fun e said => ?_) _
      rwa [truth]

/-- The members of a connective, in parentheses or not, say what the conditions say. -/
theorem says_members : ∀ (cs : List Condition) {es : List Sql.Expr},
    Lowering.memberExprs cs = .ok es → (∀ c ∈ cs, m.Readable piece c) →
      ∃ items : List (Sql.Expr × Truth), es = items.map (·.1) ∧
        items.map (·.2) = cs.map (m.condition piece) ∧
        ∀ x ∈ items, m.SaysAt Strength.test.rank x.1.text x.2
  | [], es, lowered, _ => by
      rw [Lowering.memberExprs] at lowered
      cases lowered
      exact ⟨[], rfl, rfl, by simp⟩
  | c :: cs, es, lowered, readable => by
      obtain ⟨e, others, first, further, rfl⟩ := Lowering.memberExprs_cons_eq_ok.1 lowered
      have here := says_member (says_expr c first (readable c List.mem_cons_self))
      obtain ⟨items, rfl, truths, said⟩ :=
        says_members cs further fun d mem => readable d (List.mem_cons_of_mem c mem)
      refine ⟨(Lowering.member c e, m.condition piece c) :: items, by simp, by simp [truths], ?_⟩
      intro x mem
      obtain rfl | mem := List.mem_cons.1 mem
      · exact here
      · exact said x mem

end

end Meaning

end EntityQuery
