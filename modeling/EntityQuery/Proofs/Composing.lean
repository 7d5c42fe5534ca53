import EntityQuery.Proofs.Parts
import EntityQuery.Proofs.QueryText.Narrowed
import EntityQuery.Proofs.Values

/-!
# Query text among criteria

The condition of query text and the one of criteria are joined by a conjunction. Nothing is joined
where the criteria say nothing, and it makes no difference: text is read to a condition that is
joined with the empty conjunction to itself, because a conjunction in it has several members. So one
law holds for all forms of both conditions, and what is composed depends on the text and on the
other criteria, but not on the place of the text among them.
-/

namespace EntityQuery

open ConditionText Lookup

/-! ## Reduced conditions -/

namespace Condition

/-- If a connective stands at the root of a condition, it has several members. -/
structure IsReduced (c : Condition) : Prop where
  all : ∀ members, c = .all members → 2 ≤ members.length
  any : ∀ members, c = .any members → 2 ≤ members.length

variable {a b c : Condition} {members : List Condition}

theorem conj_of_several (several : 2 ≤ (members.flatMap conjuncts).length) :
    conj members = all (members.flatMap conjuncts) := by
  rw [conj]
  split
  · next c single => simp [single] at several
  · rfl

theorem disj_of_several (several : 2 ≤ (members.flatMap disjuncts).length) :
    disj members = any (members.flatMap disjuncts) := by
  rw [disj]
  split
  · next c single => simp [single] at several
  · rfl

namespace IsReduced

theorem comparison (column : String) (op : Operator) (v : Value) :
    IsReduced (.comparison column op v) where
  all := by rintro members ⟨⟩
  any := by rintro members ⟨⟩

theorem one_le_conjuncts (h : c.IsReduced) : 1 ≤ c.conjuncts.length := by
  cases c with
  | all members => exact Nat.le_of_succ_le (h.all members rfl)
  | _ => exact Nat.le_refl 1

theorem one_le_disjuncts (h : c.IsReduced) : 1 ≤ c.disjuncts.length := by
  cases c with
  | any members => exact Nat.le_of_succ_le (h.any members rfl)
  | _ => exact Nat.le_refl 1

theorem conj (h : a.IsReduced) (h' : b.IsReduced) : (Condition.conj [a, b]).IsReduced := by
  have several : 2 ≤ ([a, b].flatMap conjuncts).length := by
    simpa using Nat.add_le_add h.one_le_conjuncts h'.one_le_conjuncts
  rw [conj_of_several several]
  constructor
  · rintro members ⟨⟩
    exact several
  · rintro members ⟨⟩

theorem disj (h : a.IsReduced) (h' : b.IsReduced) : (Condition.disj [a, b]).IsReduced := by
  have several : 2 ≤ ([a, b].flatMap disjuncts).length := by
    simpa using Nat.add_le_add h.one_le_disjuncts h'.one_le_disjuncts
  rw [disj_of_several several]
  constructor
  · rintro members ⟨⟩
  · rintro members ⟨⟩
    exact several

/-- Joined with nothing, a reduced condition is itself. -/
theorem conj_always (h : c.IsReduced) : Condition.conj [c, always] = c := by
  have own : [c, always].flatMap conjuncts = c.conjuncts := by simp
  cases c with
  | all members =>
      rw [conj_of_several (by rw [own]; exact h.all members rfl), own, conjuncts]
  | _ => rfl

end IsReduced

end Condition

namespace QueryText

variable {p : Persister} {text : List Char}

theorem isReduced_comparison {target : Expr} {op : Operator} {v : Value} {c : Condition}
    (h : (comparison p text target op v).fresh = .ok c) : c.IsReduced := by
  obtain ⟨name, m, -, -, compared⟩ := comparison_eq_ok.1 h
  obtain ⟨-, w, -, rfl⟩ := FieldMapping.comparison_eq_ok compared
  exact .comparison m.column op w

theorem Narrows.isReduced {e : Expr} {c : Condition} (h : Narrows p text e c) :
    c.IsReduced := by
  induction h with
  | symbol _ _ compared | pattern _ compared | membership _ compared | nullTest compared =>
      exact isReduced_comparison compared
  | conj _ _ ihl ihr => exact ihl.conj ihr
  | disj _ _ ihl ihr => exact ihl.disj ihr
  | nested _ ih => exact ih

/-- The condition of a text always holds, or it is reduced. -/
theorem eq_always_or_isReduced {text : String} {c : Condition}
    (h : (condition p text).fresh = .ok c) : c = .always ∨ c.IsReduced := by
  obtain ⟨-, always⟩ | ⟨s, -, -, -, narrowed⟩ := condition_cases h
  · exact .inl always
  · exact .inr narrowed.isReduced

end QueryText

/-! ## Composed queries -/

namespace Query

/-- The condition of a query; without one, it is the condition that always holds. -/
def condition (q : Query) : Condition := q.clauses.condition.getD .always

/-- A query is a condition joined with another query: order and page are those of the other one, and
a row is found if the condition holds of it and the other query finds it. -/
structure Joins (q : Query) (base : Condition) (parsed : Query) : Prop where
  order : q.clauses.order = parsed.clauses.order
  limit : q.clauses.limit = parsed.clauses.limit
  offset : q.clauses.offset = parsed.clauses.offset
  condition : q.clauses.condition = some (.conj [base, parsed.condition])
  truth : ∀ atom piece, q.condition.truth atom piece =
    (base.truth atom piece).and (parsed.condition.truth atom piece)
  comparisons : q.condition.comparisons = base.comparisons ++ parsed.condition.comparisons

theorem joins_ofParts (base own : Condition) (order : SortOrder) (limit offset : Option Nat) :
    (ofParts (.conj [base, own]) order limit offset).Joins base
      (ofParts own order limit offset) where
  order := rfl
  limit := rfl
  offset := rfl
  condition := rfl
  truth := by
    intro atom piece
    refine (Condition.truth_conj atom piece [base, own]).trans ?_
    rw [List.map_cons, ← List.singleton_append, Truth.all_append, List.map_singleton,
      Truth.all_singleton, Truth.all_singleton]
    rfl
  comparisons := by
    refine (Condition.comparisons_conj [base, own]).trans ?_
    rw [List.flatMap_cons, List.flatMap_singleton]
    rfl

end Query

namespace Criteria

variable {p : Persister} {key : String} {criteria : Criteria} {request : SortRequest}
  {limit offset : Option Nat} {q : Query}

theorem read_eq_ok : (criteria.read p key request limit offset).fresh = .ok q ↔
    ∃ own order, (condition p key criteria).fresh = .ok own ∧
      (Criteria.order p request).fresh = .ok order ∧ q = .ofParts own order limit offset := by
  rw [fresh_read, bind_eq_ok]
  constructor
  · rintro ⟨own, compared, read⟩
    obtain ⟨order, sorted, ⟨⟩⟩ := bind_eq_ok.1 read
    exact ⟨own, order, compared, sorted, rfl⟩
  · rintro ⟨own, order, compared, sorted, rfl⟩
    exact ⟨own, compared, bind_eq_ok.2 ⟨order, sorted, rfl⟩⟩

end Criteria

namespace Composer

variable {c : Composer} {criteria criteria' : Criteria} {request : SortRequest}
  {limit offset : Option Nat} {q : Query} {text : String}

/-- Composing looks at the text under the reserved key and at the other entries. -/
theorem compose_congr (text : criteria.lookup c.reservedKey = criteria'.lookup c.reservedKey)
    (others : criteria.filter (·.1 != c.reservedKey) = criteria'.filter (·.1 != c.reservedKey)) :
    c.compose criteria request limit offset = c.compose criteria' request limit offset := by
  rw [compose, compose, Criteria.read, Criteria.read, Criteria.condition_eq, Criteria.condition_eq,
    others, base?, base?, text]

/-- Where a text is present, its condition is joined with the one of the other criteria. -/
theorem compose_eq_ok (present : criteria.lookup c.reservedKey = some (.string text)) :
    (c.compose criteria request limit offset).fresh = .ok q ↔
      ∃ base own order, (QueryText.condition c.persister text).fresh = .ok base ∧
        (criteria.read c.persister c.reservedKey request limit offset).fresh =
          .ok (.ofParts own order limit offset) ∧
        q = .ofParts (.conj [base, own]) order limit offset := by
  have read : (c.base? criteria).fresh = (QueryText.condition c.persister text).fresh.map some := by
    rw [fresh_base?, present]
  have joined {base : Condition} (h : (QueryText.condition c.persister text).fresh = .ok base)
      (own : Condition) : merge (some base) own = .conj [base, own] := by
    rw [merge, extend]
    split
    · next trivial =>
        rw [Condition.isTrivial_iff.1 trivial]
        obtain rfl | reduced := QueryText.eq_always_or_isReduced h
        · rfl
        · exact reduced.conj_always.symm
    · rfl
  rw [fresh_compose, read]
  constructor
  · intro composed
    obtain ⟨own, compared, composed⟩ := bind_eq_ok.1 composed
    obtain ⟨order, sorted, composed⟩ := bind_eq_ok.1 composed
    obtain ⟨_, found, ⟨⟩⟩ := bind_eq_ok.1 composed
    obtain ⟨base, known, rfl⟩ := map_eq_ok.1 found
    refine ⟨base, own, order, known, Criteria.read_eq_ok.2 ⟨own, order, compared, sorted, rfl⟩, ?_⟩
    rw [joined known own]
  · rintro ⟨base, own, order, known, parsed, rfl⟩
    obtain ⟨own', order', compared, sorted, same⟩ := Criteria.read_eq_ok.1 parsed
    cases same
    rw [compared, sorted, known, ← joined known own]
    rfl

theorem compose_ok_iff (present : criteria.lookup c.reservedKey = some (.string text)) :
    (∃ q, (c.compose criteria request limit offset).fresh = .ok q) ↔
      (∃ q, (criteria.read c.persister c.reservedKey request limit offset).fresh = .ok q) ∧
        ∃ condition, (QueryText.condition c.persister text).fresh = .ok condition := by
  constructor
  · rintro ⟨q, composed⟩
    obtain ⟨condition, own, order, known, read, -⟩ := (compose_eq_ok present).1 composed
    exact ⟨⟨_, read⟩, condition, known⟩
  · rintro ⟨⟨_, read⟩, condition, known⟩
    obtain ⟨own, order, -, -, rfl⟩ := Criteria.read_eq_ok.1 read
    exact ⟨_, (compose_eq_ok present).2 ⟨condition, own, order, known, read, rfl⟩⟩

theorem joins_of_compose {own : Query} {condition : Condition}
    (present : criteria.lookup c.reservedKey = some (.string text))
    (composed : (c.compose criteria request limit offset).fresh = .ok q)
    (read : (criteria.read c.persister c.reservedKey request limit offset).fresh = .ok own)
    (known : (QueryText.condition c.persister text).fresh = .ok condition) :
    q.Joins condition own := by
  obtain ⟨condition', own', order, known', read', rfl⟩ := (compose_eq_ok present).1 composed
  cases known'.symm.trans known
  cases read'.symm.trans read
  exact Query.joins_ofParts condition own' order limit offset

theorem lookup_text {front back : Criteria} (fields : ∀ x ∈ front ++ back, x.1 ≠ c.reservedKey) :
    (front ++ (c.reservedKey, .string text) :: back).lookup c.reservedKey =
      some (.string text) := by
  have absent : front.lookup c.reservedKey = none :=
    List.lookup_eq_none_iff.2 fun x mem =>
      bne_iff_ne.2 (fields x (List.mem_append_left back mem)).symm
  rw [List.lookup_append, absent, Option.none_or, List.lookup_cons_self]

theorem filter_text (front back : Criteria) :
    (front ++ (c.reservedKey, .string text) :: back).filter (·.1 != c.reservedKey) =
      (front ++ back).filter (·.1 != c.reservedKey) := by
  simp

/-- Query text under the reserved key, wherever it stands among the criteria: the composed query is
there exactly if the other criteria can be read and the text can, it is the condition of the text
joined with the query of the criteria, and it is the same wherever the text stands. -/
theorem compose_text (c : Composer) (text : String) {memo memo' memo'' : Memo}
    {front back : Criteria} (h : c.persister.Remembers memo) (h' : c.persister.Remembers memo')
    (h'' : c.persister.Remembers memo'') (fields : ∀ x ∈ front ++ back, x.1 ≠ c.reservedKey)
    (request : SortRequest) (limit offset : Option Nat) :
    let criteria := front ++ (c.reservedKey, .string text) :: back
    let composed := ((c.compose criteria request limit offset).perform memo).1
    let parsed := ((criteria.read c.persister c.reservedKey request limit offset).perform memo').1
    let base := ((QueryText.condition c.persister text).perform memo'').1
    ((∃ q, composed = .ok q) ↔ (∃ q, parsed = .ok q) ∧ ∃ condition, base = .ok condition) ∧
      (∀ q own condition, composed = .ok q → parsed = .ok own → base = .ok condition →
        q.Joins condition own) ∧
      ∀ front' back' : Criteria, front' ++ back' = front ++ back →
        c.compose (front' ++ (c.reservedKey, .string text) :: back') request limit offset =
          c.compose criteria request limit offset := by
  intro criteria composed parsed base
  have composed_eq : composed = (c.compose criteria request limit offset).fresh :=
    h.perform_eq (settled_compose criteria request limit offset)
  have parsed_eq : parsed =
      (criteria.read c.persister c.reservedKey request limit offset).fresh :=
    h'.perform_eq (Criteria.settled_read c.reservedKey criteria request limit offset)
  have base_eq : base = (QueryText.condition c.persister text).fresh :=
    h''.perform_eq (QueryText.settled_condition text)
  have present : criteria.lookup c.reservedKey = some (.string text) := lookup_text fields
  rw [composed_eq, parsed_eq, base_eq]
  refine ⟨compose_ok_iff present, fun q own condition => joins_of_compose present, ?_⟩
  intro front' back' same
  have fields' : ∀ x ∈ front' ++ back', x.1 ≠ c.reservedKey := by
    rw [same]
    exact fields
  refine compose_congr ?_ ?_
  · rw [lookup_text fields', present]
  · rw [filter_text, filter_text, same]

/-- A composer for tasks, whose states are stored in capital letters. -/
def tasks : Composer where
  persister :=
    { handle := 1
      catalog := ⟨[⟨"Task", "tasks", none, ["id"],
        [⟨"owner", none, .identity⟩, ⟨"state", none, .uppercase⟩, ⟨"points", none, .integer⟩]⟩]⟩
      entity := "Task"
      casing := .lower }

/-- A disjunction keeps its parentheses between two criteria, and stands in front of both. -/
theorem tasks_joined :
    let front : Criteria := [("owner", .string "ann")]
    let back : Criteria := [("points", .object [("op", .string "<"), ("value", .integer 8)])]
    let text := "state = 'open' OR owner IS NULL"
    let criteria := front ++ ("query", .string text) :: back
    ∃ q own condition,
      ((tasks.compose criteria [("points", "desc")] (some 5) none).perform {}).1 = .ok q ∧
      q.condition.display =
        "((state = 'OPEN' OR owner = NULL) AND owner = 'ann' AND points < 8)" ∧
      q.Joins condition own ∧
      tasks.compose (("query", .string text) :: front ++ back) [("points", "desc")] (some 5) none =
        tasks.compose criteria [("points", "desc")] (some 5) none := by
  intro front back text criteria
  have displayed :
      ((tasks.compose criteria [("points", "desc")] (some 5) none).perform {}).1.map
        (·.condition.display) =
          .ok "((state = 'OPEN' OR owner = NULL) AND owner = 'ann' AND points < 8)" := by
    decide +kernel
  have fields : ∀ x ∈ front ++ back, x.1 ≠ tasks.reservedKey := by decide
  obtain ⟨succeeds, joins, moves⟩ := compose_text tasks text .nothing .nothing .nothing fields
    [("points", "desc")] (some 5) none
  obtain ⟨q, done, shown⟩ := map_eq_ok.1 displayed
  obtain ⟨⟨own, read⟩, condition, known⟩ := succeeds.1 ⟨q, done⟩
  exact ⟨q, own, condition, done, shown, joins q own condition done read known,
    moves [] (front ++ back) rfl⟩

end Composer

end EntityQuery
