import EntityQuery.Proofs.QueryText.Accepted
import EntityQuery.Proofs.QueryText.Flatness
import EntityQuery.Proofs.Reading.Whole

/-!
# Grouping in query text

Parentheses that group equal connectives say nothing: the same conditions joined in the same order
are the same condition, since what is read is flat. Two expressions regroup each other if one is
made of the other by adding and dropping parentheses and by grouping members of one connective
differently, wherever the parts stand in their texts. Such expressions are narrowed alike, including
what is remembered on the way and, up to the position, the error.
-/

namespace EntityQuery

open ConditionText Lookup

/-! ## What is read, wherever it stands -/

/-- An error without its position. -/
def QueryError.unplaced : QueryError → QueryError
  | .syntaxError _ expected => .syntaxError 0 expected
  | e => e

/-- An operation whose errors have no positions. -/
def Lookup.unplaced {α : Type} (l : Lookup α) : Lookup α := ExceptT.adapt QueryError.unplaced l

namespace Lookup

variable {α β : Type} {l : Lookup α}

theorem perform_unplaced (l : Lookup α) (memo : Memo) :
    l.unplaced.perform memo =
      ((l.perform memo).1.mapError QueryError.unplaced, (l.perform memo).2) := rfl

theorem ext_perform {l' : Lookup α} (h : ∀ memo, l.perform memo = l'.perform memo) : l = l' :=
  funext h

theorem unplaced_bind (l : Lookup α) (f : α → Lookup β) :
    (l >>= f).unplaced = l.unplaced >>= fun a => (f a).unplaced := by
  refine ext_perform fun memo => ?_
  rw [perform_unplaced, perform_bind, perform_bind, perform_unplaced]
  cases l.perform memo with
  | mk result next => cases result <;> rfl

theorem unplaced_map (g : α → β) (l : Lookup α) : (g <$> l).unplaced = g <$> l.unplaced := by
  rw [map_eq_pure_bind, map_eq_pure_bind, unplaced_bind]
  rfl

/-- What follows an operation matters only for what the operation comes to. -/
theorem bind_congr_of_ensures {P : α → Prop} {f g : α → Lookup β} (ensured : l.Ensures P)
    (same : ∀ a, P a → f a = g a) : l >>= f = l >>= g := by
  refine ext_perform fun memo => ?_
  rw [perform_bind, perform_bind]
  cases done : l.perform memo with
  | mk result next =>
      cases result with
      | error e => rfl
      | ok a =>
          dsimp only
          rw [same a (ensured a ⟨memo, next, done⟩)]

theorem unplaced_ofResult {r s : QueryResult α}
    (same : r.mapError QueryError.unplaced = s.mapError QueryError.unplaced) :
    (Lookup.ofResult r).unplaced = (Lookup.ofResult s).unplaced := by
  refine ext_perform fun memo => ?_
  rw [perform_unplaced, perform_unplaced]
  exact congrArg (·, memo) same

end Lookup

namespace ConditionText

/-- A name without its place. -/
def Ident.unplaced (i : Ident) : Ident := { i with span := .empty }

namespace Expr

mutual

/-- An expression without the places of its parts. -/
def unplaced : Expr → Expr
  | ident name => ident name.unplaced
  | compound parts => compound (parts.map Ident.unplaced)
  | constant c => constant c
  | signed op operand => signed op operand.unplaced
  | binary left op right => binary left.unplaced op right.unplaced
  | nested inner => nested inner.unplaced
  | like negated any operand pattern escape =>
    like negated any operand.unplaced pattern.unplaced escape
  | inList operand items negated => inList operand.unplaced (unplacedAll items) negated
  | isNull operand negated => isNull operand.unplaced negated
  | subquery query => subquery query.unplaced
  | other fragment => other fragment.unplaced

/-- Expressions without the places of their parts. -/
def unplacedAll : List Expr → List Expr
  | [] => []
  | e :: rest => unplaced e :: unplacedAll rest

end

theorem unplacedAll_eq_map (es : List Expr) : unplacedAll es = es.map unplaced := by
  induction es with
  | nil => rw [unplacedAll, List.map_nil]
  | cons e rest ih => rw [unplacedAll, ih, List.map_cons]

/-- Two expressions are the same up to the places of their parts, parentheses, and the groups in
which members of equal connectives are joined. -/
inductive Regroups : Expr → Expr → Prop
  | moved {e e' : Expr} (same : e.unplaced = e'.unplaced) : Regroups e e'
  | parentheses (e : Expr) : Regroups (.nested e) e
  | conjuncts (a b c : Expr) :
      Regroups (.binary (.binary a .and b) .and c) (.binary a .and (.binary b .and c))
  | disjuncts (a b c : Expr) :
      Regroups (.binary (.binary a .or b) .or c) (.binary a .or (.binary b .or c))
  | and {a a' b b' : Expr} (left : Regroups a a') (right : Regroups b b') :
      Regroups (.binary a .and b) (.binary a' .and b')
  | or {a a' b b' : Expr} (left : Regroups a a') (right : Regroups b b') :
      Regroups (.binary a .or b) (.binary a' .or b')
  | symm {e e' : Expr} (h : Regroups e e') : Regroups e' e
  | trans {e e' e'' : Expr} (h : Regroups e e') (h' : Regroups e' e'') : Regroups e e''

end Expr

/-- A sort key without the places of its parts. -/
def OrderTerm.unplaced (t : OrderTerm) : OrderTerm := { t with key := t.key.unplaced }

/-- The conditions of two statements regroup each other, and the rest is the same wherever it
stands. -/
structure Statement.Regroups (s s' : Statement) : Prop where
  condition : s.condition.Regroups s'.condition
  order : s.tail.order.map (·.map OrderTerm.unplaced) =
    s'.tail.order.map (·.map OrderTerm.unplaced)
  limit : s.tail.limit.map Expr.unplaced = s'.tail.limit.map Expr.unplaced
  offset : s.tail.offset.map Expr.unplaced = s'.tail.offset.map Expr.unplaced

end ConditionText

namespace QueryText

variable {p : Persister}

theorem value?_unplaced (e : Expr) : value? e.unplaced = value? e := by
  cases e with
  | signed op operand => cases op <;> cases operand <;> rfl
  | _ => rfl

theorem field?_unplaced (e : Expr) : field? e.unplaced = field? e := by
  cases e with
  | compound parts =>
      match parts with
      | [] | [_] | [_, _] | _ :: _ :: _ :: _ => rfl
  | _ => rfl

theorem natural?_unplaced (e : Expr) : natural? e.unplaced = natural? e := by
  cases e <;> rfl

/-- The results are the same up to the position of a syntax error. -/
abbrev Alike {α : Type} (r s : QueryResult α) : Prop :=
  r.mapError QueryError.unplaced = s.mapError QueryError.unplaced

theorem Alike.bind {α β : Type} {r s : QueryResult α} {f g : α → QueryResult β} (first : Alike r s)
    (second : ∀ a, Alike (f a) (g a)) : Alike (r >>= f) (s >>= g) := by
  cases r with
  | error e =>
      cases s with
      | error e' => exact congrArg Except.error (Except.error.inj first)
      | ok b => cases first
  | ok a =>
      cases s with
      | error e' => cases first
      | ok b =>
          cases first
          exact second a

theorem literal_unplaced (text text' : List Char) (e : Expr) :
    Alike (literal text e) (literal text' e.unplaced) := by
  rw [Alike, literal, literal, value?_unplaced]
  cases value? e with
  | none => rfl
  | some v =>
      dsimp only
      split <;> rfl

theorem literals_unplaced (text text' : List Char) (es : List Expr) :
    Alike (es.mapM (literal text)) ((es.map Expr.unplaced).mapM (literal text')) := by
  induction es with
  | nil => rfl
  | cons e es ih =>
      rw [List.map_cons, List.mapM_cons, List.mapM_cons]
      exact (literal_unplaced text text' e).bind fun v => ih.bind fun vs => rfl

theorem field_unplaced (text text' : List Char) (e : Expr) :
    Alike (field text e) (field text' e.unplaced) := by
  rw [Alike, field, field, field?_unplaced]
  cases field? e <;> rfl

theorem naturals_unplaced (text text' : List Char) (e? : Option Expr) :
    Alike (e?.mapM (natural text)) ((e?.map Expr.unplaced).mapM (natural text')) := by
  cases e? with
  | none => rfl
  | some e =>
      rw [Alike, Option.map_some, Option.mapM_some, Option.mapM_some, natural, natural,
        natural?_unplaced]
      cases natural? e <;> rfl

theorem sortKeys_unplaced (text text' : List Char) (terms : List OrderTerm) :
    (terms.mapM (sortKey p text)).unplaced =
      ((terms.map OrderTerm.unplaced).mapM (sortKey p text')).unplaced := by
  induction terms with
  | nil => rfl
  | cons t rest ih =>
      have first : (sortKey p text t).unplaced = (sortKey p text' t.unplaced).unplaced := by
        rw [sortKey, sortKey, unplaced_bind, unplaced_bind,
          unplaced_ofResult (field_unplaced text text' t.key)]
        rfl
      rw [List.map_cons, List.mapM_cons, List.mapM_cons, unplaced_bind, unplaced_bind, first]
      simp only [unplaced_bind, ih]

theorem comparison_unplaced (text text' : List Char) (target : Expr) (op : Operator) (v : Value) :
    (comparison p text target op v).unplaced =
      (comparison p text' target.unplaced op v).unplaced := by
  rw [comparison, comparison, unplaced_bind, unplaced_bind,
    unplaced_ofResult (field_unplaced text text' target)]

theorem narrow_unplaced (text text' : List Char) (e : Expr) :
    (narrow p text e).unplaced = (narrow p text' e.unplaced).unplaced := by
  induction e using narrow.induct with
  | case1 left right ihl ihr =>
      rw [Expr.unplaced, narrow, narrow]
      simp only [unplaced_bind, ihl, ihr]
  | case2 left right ihl ihr =>
      rw [Expr.unplaced, narrow, narrow]
      simp only [unplaced_bind, ihl, ihr]
  | case3 inner ih =>
      rw [Expr.unplaced, narrow, narrow, ih]
  | case4 left op right notAnd notOr unknown =>
      rw [Expr.unplaced, narrow_noOperator notAnd notOr unknown,
        narrow_noOperator notAnd notOr unknown]
      exact unplaced_ofResult rfl
  | case5 left op right notAnd notOr operator known =>
      rw [Expr.unplaced, narrow_operator known, narrow_operator known]
      simp only [unplaced_bind, unplaced_ofResult (literal_unplaced text text' right),
        comparison_unplaced text text' left]
  | case6 negated any operand pattern escape =>
      rw [Expr.unplaced, narrow, narrow]
      simp only [unplaced_bind, unplaced_ofResult (literal_unplaced text text' pattern),
        comparison_unplaced text text' operand]
  | case7 operand items negated =>
      rw [Expr.unplaced, narrow, narrow, Expr.unplacedAll_eq_map]
      simp only [unplaced_bind, unplaced_ofResult (literals_unplaced text text' items),
        comparison_unplaced text text' operand]
  | case8 operand negated =>
      rw [Expr.unplaced, narrow, narrow, comparison_unplaced text text' operand]
  | case9 e notAnd notOr notNested notBinary notLike notList notNull =>
      cases e with
      | binary left op right => exact absurd rfl (notBinary left op right)
      | nested inner => exact absurd rfl (notNested inner)
      | like negated any operand pattern escape => exact absurd rfl (notLike _ _ _ _ _)
      | inList operand items negated => exact absurd rfl (notList _ _ _)
      | isNull operand negated => exact absurd rfl (notNull _ _)
      | _ => exact unplaced_ofResult rfl

theorem narrow_moved (text text' : List Char) (e : Expr) :
    (narrow p text e).unplaced = (narrow p text' e).unplaced := by
  rw [narrow_unplaced text text', ← narrow_unplaced text' text']

/-- Three conditions that are joined one after the other may be joined in either group. -/
theorem regroup {join : List Condition → Condition} {l m n : Lookup Condition}
    (assoc : ∀ {a b c : Condition}, a.isFlat → b.isFlat → c.isFlat →
      join [join [a, b], c] = join [a, join [b, c]])
    (hl : l.Ensures (·.isFlat)) (hm : m.Ensures (·.isFlat)) (hn : n.Ensures (·.isFlat)) :
    ((l >>= fun a => m >>= fun b => pure (join [a, b])) >>= fun front =>
        n >>= fun c => pure (join [front, c])) =
      l >>= fun a => (m >>= fun b => n >>= fun c => pure (join [b, c])) >>= fun back =>
        pure (join [a, back]) := by
  simp only [bind_assoc, pure_bind]
  refine bind_congr_of_ensures hl fun a ha => bind_congr_of_ensures hm fun b hb =>
    bind_congr_of_ensures hn fun c hc => ?_
  rw [assoc ha hb hc]

/-- Expressions that regroup each other are narrowed alike. -/
theorem narrow_regroups {e e' : Expr} (h : e.Regroups e') (text text' : List Char) :
    (narrow p text e).unplaced = (narrow p text' e').unplaced := by
  induction h generalizing text text' with
  | @moved e e' same =>
      rw [narrow_unplaced text text', same, ← narrow_unplaced text' text']
  | parentheses e =>
      rw [narrow, narrow_moved]
  | symm h ih => exact (ih text' text).symm
  | trans h h' ih ih' => exact (ih text text').trans (ih' text' text')
  | and left right ihl ihr =>
      rw [narrow, narrow]
      simp only [unplaced_bind, ihl text text', ihr text text']
  | or left right ihl ihr =>
      rw [narrow, narrow]
      simp only [unplaced_bind, ihl text text', ihr text text']
  | conjuncts a b c =>
      rw [narrow_moved text text']
      simp only [narrow]
      exact congrArg _ (regroup Condition.joins_conj.join_assoc (narrow_ensures a)
        (narrow_ensures b) (narrow_ensures c))
  | disjuncts a b c =>
      rw [narrow_moved text text']
      simp only [narrow]
      exact congrArg _ (regroup Condition.joins_disj.join_assoc (narrow_ensures a)
        (narrow_ensures b) (narrow_ensures c))

theorem sortKeys_congr {terms terms' : List OrderTerm} (text text' : List Char)
    (same : terms.map OrderTerm.unplaced = terms'.map OrderTerm.unplaced) :
    (terms.mapM (sortKey p text)).unplaced = (terms'.mapM (sortKey p text')).unplaced := by
  rw [sortKeys_unplaced text text', same, ← sortKeys_unplaced text' text']

theorem naturals_congr {e? e?' : Option Expr} (text text' : List Char)
    (same : e?.map Expr.unplaced = e?'.map Expr.unplaced) :
    Alike (e?.mapM (natural text)) (e?'.mapM (natural text')) := by
  rw [Alike, naturals_unplaced text text', same, ← naturals_unplaced text' text']

/-! ## Whole texts -/

section

variable {text text' : String} {s s' : Statement}

theorem not_blank_of_statement (read : statement text.toList = .ok s) :
    Unicode.allBlank text = false := by
  obtain ⟨⟨left, whole⟩, -⟩ := statement_eq_ok.1 read
  exact not_blank_of_readStatement whole

theorem condition_of_statement (read : statement text.toList = .ok s) :
    condition p text =
      if s.tail.order.isSome || s.tail.limit.isSome || s.tail.offset.isSome then
        Lookup.ofResult (refusal (keywordPosition pagingKeywords text.toList) "end of condition")
      else narrow p text.toList s.condition := by
  unfold condition
  simp only [not_blank_of_statement read, read]
  rfl

theorem query_of_statement (read : statement text.toList = .ok s) :
    query p text = narrowQuery p text.toList s := by
  unfold query
  simp only [not_blank_of_statement read, read]
  rfl

/-- Texts that regroup each other denote the same condition. -/
theorem condition_regroups (read : statement text.toList = .ok s)
    (read' : statement text'.toList = .ok s') (h : s.Regroups s') :
    (condition p text).unplaced = (condition p text').unplaced := by
  have ordered : s.tail.order.isSome = s'.tail.order.isSome := by
    simpa using congrArg Option.isSome h.order
  have limited : s.tail.limit.isSome = s'.tail.limit.isSome := by
    simpa using congrArg Option.isSome h.limit
  have skipped : s.tail.offset.isSome = s'.tail.offset.isSome := by
    simpa using congrArg Option.isSome h.offset
  rw [condition_of_statement read, condition_of_statement read', ordered, limited, skipped]
  split
  · exact unplaced_ofResult rfl
  · exact narrow_regroups h.condition _ _

/-- Texts that regroup each other denote the same query. -/
theorem query_regroups (read : statement text.toList = .ok s)
    (read' : statement text'.toList = .ok s') (h : s.Regroups s') :
    (query p text).unplaced = (query p text').unplaced := by
  have keys : (s.tail.order.getD []).map OrderTerm.unplaced =
      (s'.tail.order.getD []).map OrderTerm.unplaced := by
    have same := h.order
    cases order : s.tail.order <;> cases order' : s'.tail.order <;> simp_all
  rw [query_of_statement read, query_of_statement read', narrowQuery, narrowQuery]
  simp only [unplaced_bind, narrow_regroups h.condition text.toList text'.toList,
    sortKeys_congr text.toList text'.toList keys,
    unplaced_ofResult (naturals_congr text.toList text'.toList h.limit),
    unplaced_ofResult (naturals_congr text.toList text'.toList h.offset)]

end

end QueryText

/-- Criteria that differ in the grouping of their text only are composed to the same query. -/
theorem Composer.compose_regroups (c : Composer) {criteria criteria' : Criteria}
    {text text' : String} (present : criteria.lookup c.reservedKey = some (.string text))
    (present' : criteria'.lookup c.reservedKey = some (.string text'))
    (others : criteria.filter (·.1 != c.reservedKey) = criteria'.filter (·.1 != c.reservedKey))
    (same : (QueryText.condition c.persister text).unplaced =
      (QueryText.condition c.persister text').unplaced)
    (request : SortRequest) (limit offset : Option Nat) :
    (c.compose criteria request limit offset).unplaced =
      (c.compose criteria' request limit offset).unplaced := by
  have own : criteria.read c.persister c.reservedKey request limit offset =
      criteria'.read c.persister c.reservedKey request limit offset := by
    rw [Criteria.read, Criteria.read, Criteria.condition, Criteria.condition, others]
  have base : (c.base? criteria).unplaced = (c.base? criteria').unplaced := by
    rw [base?, base?, present, present']
    dsimp only
    rw [unplaced_map, unplaced_map, same]
  rw [compose, compose, own, unplaced_bind, unplaced_bind]
  refine bind_congr fun q => ?_
  rw [unplaced_bind, unplaced_bind, base]

/-- Connectives join flat conditions to flat ones with the same meaning, in whatever groups. So all
that is read is flat, and texts that regroup each other are read alike, alone or among criteria: the
results, what is remembered, and the errors up to their positions are the same. -/
theorem Condition.flat_in_all_groups :
    (∀ cs ds : List Condition, (∀ c ∈ cs, c.isFlat) → (∀ c ∈ ds, c.isFlat) →
      JoinsFlatly conj Truth.all cs ds ∧ JoinsFlatly disj Truth.any cs ds) ∧
    (∀ (p : Persister) (text : String) (criteria : Criteria) (key : String) (request : SortRequest)
      (limit offset : Option Nat),
      (QueryText.condition p text).Ensures (·.isFlat) ∧
      (QueryText.query p text).Ensures Query.IsFlat ∧
      (Criteria.condition p key criteria).Ensures (·.isFlat) ∧
      (Composer.compose ⟨p, key⟩ criteria request limit offset).Ensures Query.IsFlat) ∧
    ∀ (p : Persister) (text text' : String) (s s' : Statement),
      QueryText.statement text.toList = .ok s → QueryText.statement text'.toList = .ok s' →
      s.Regroups s' →
      (QueryText.condition p text).unplaced = (QueryText.condition p text').unplaced ∧
      (QueryText.query p text).unplaced = (QueryText.query p text').unplaced ∧
      ∀ (key : String) (criteria criteria' : Criteria) (request : SortRequest)
        (limit offset : Option Nat), criteria.lookup key = some (.string text) →
        criteria'.lookup key = some (.string text') →
        criteria.filter (·.1 != key) = criteria'.filter (·.1 != key) →
        (Composer.compose ⟨p, key⟩ criteria request limit offset).unplaced =
          (Composer.compose ⟨p, key⟩ criteria' request limit offset).unplaced := by
  refine ⟨fun cs ds flat flat' =>
    ⟨conj_joinsFlatly flat flat', disj_joinsFlatly flat flat'⟩, ?_, ?_⟩
  · intro p text criteria key request limit offset
    exact ⟨QueryText.condition_ensures text, QueryText.query_ensures text,
      Criteria.condition_ensures key criteria,
      Composer.compose_ensures criteria request limit offset⟩
  intro p text text' s s' read read' h
  have same := QueryText.condition_regroups (p := p) read read' h
  refine ⟨same, QueryText.query_regroups read read' h, ?_⟩
  intro key criteria criteria' request limit offset present present' others
  exact Composer.compose_regroups ⟨p, key⟩ present present' others same request limit offset

namespace ConditionText

/-- A test whether a field is a number. -/
def fieldIs (name digits : String) : Expr :=
  .binary (.ident ⟨name, none, .empty⟩) .eq (.constant (.number digits false))

theorem Written.fieldIs (name digits : String) (plain : isPlainWord name.toList)
    (free : Unicode.upper name ∉ reservedWords) (nonempty : digits.toList ≠ [])
    (number : digits.toList.all Char.isDigit) :
    Written 1 Strength.comparison.rank (name ++ " " ++ "=" ++ " " ++ digits)
      (·.unplaced = ConditionText.fieldIs name digits) := by
  have value := (WrittenOperand.number (.of_digits nonempty number)).toWritten Strength.sum.rank
  refine (WrittenOperand.comparison .eq (.name plain free) value (by decide) ?_).mono
    (by decide) (Nat.le_refl _) fun _ => id
  rintro _ _ ⟨extent, rfl⟩ rfl
  rfl

theorem Written.statement {need floor : Nat} {text : String} {P : Expr → Prop}
    (h : Written need floor text P) (some : 0 < floor) (shallow : need + 2 < nestingBudget) :
    ∃ e, P e ∧ QueryText.statement text.toList = .ok (.bare e) := by
  obtain ⟨e, holds, read⟩ := h.read some shallow
  refine ⟨e, holds, ?_⟩
  rw [QueryText.statement, String.ofList_toList, read]
  rfl

/-- Three tests, the first two of them in parentheses, or the last two. -/
theorem Written.groups {need floor : Nat} {r s t : String} {a b c : Expr}
    (first : Written need floor r (·.unplaced = a)) (second : Written need floor s (·.unplaced = b))
    (third : Written need floor t (·.unplaced = c)) (high : Strength.conjunction.rank < floor)
    (shallow : need + 6 < nestingBudget) :
    ∃ e e', e.Regroups e' ∧
      QueryText.statement ("(" ++ (r ++ " " ++ "AND" ++ " " ++ s) ++ ")" ++ " " ++ "AND" ++ " " ++
        t).toList = .ok (.bare e) ∧
      QueryText.statement (r ++ " " ++ "AND" ++ " " ++
        ("(" ++ (s ++ " " ++ "AND" ++ " " ++ t) ++ ")")).toList = .ok (.bare e') := by
  have pair {need need' : Nat} {s t : String} {P Q : Expr → Prop} (left : Written need floor s P)
      (right : Written need' floor t Q) :
      Written (max need (need' + 1)) Strength.conjunction.rank (s ++ " " ++ "AND" ++ " " ++ t)
        fun e => ∃ x y, e = .binary x .and y ∧ P x ∧ Q y :=
    left.connective .and (Nat.le_of_lt high) right high fun e e' h h' => ⟨e, e', rfl, h, h'⟩
  have parentheses {need : Nat} {text : String} {P : Expr → Prop}
      (h : Written need Strength.conjunction.rank text P) :
      Written (need + 1) floor ("(" ++ text ++ ")") fun e => ∃ x, e = .nested x ∧ P x :=
    ((h.enclosed (by decide)).parentheses fun e holds => ⟨e, rfl, holds⟩).toWritten floor
  obtain ⟨_, ⟨_, z, rfl, ⟨_, rfl, x, y, rfl, ha, hb⟩, hc⟩, read⟩ :=
    (pair (parentheses (pair first second)) third).statement (by decide) (by omega)
  obtain ⟨_, ⟨x', _, rfl, ha', _, rfl, y', z', rfl, hb', hc'⟩, read'⟩ :=
    (pair first (parentheses (pair second third))).statement (by decide) (by omega)
  refine ⟨_, _, ?_, read, read'⟩
  have members : (Expr.binary (.binary x .and y) .and z).Regroups
      (.binary (.binary x' .and y') .and z') :=
    .and (.and (.moved (ha.trans ha'.symm)) (.moved (hb.trans hb'.symm)))
      (.moved (hc.trans hc'.symm))
  have opened := Expr.Regroups.and (.parentheses (.binary x .and y)) (.moved (Eq.refl z.unplaced))
  have closed := Expr.Regroups.and (.moved (Eq.refl x'.unplaced))
    (.symm (.parentheses (.binary y' .and z')))
  exact opened.trans (members.trans ((Expr.Regroups.conjuncts x' y' z').trans closed))

end ConditionText

/-- An entity with three fields. -/
def letters : Persister where
  handle := 1
  catalog := ⟨[⟨"Letter", "letters", none, ["id"],
    [⟨"a", none, .identity⟩, ⟨"b", none, .identity⟩, ⟨"c", none, .identity⟩]⟩]⟩
  entity := "Letter"
  casing := .lower

/-- Three tests of them in both groups, alone and under the key of criteria. -/
theorem Condition.letters_in_both_groups :
    let left := "(a = 1 AND b = 2) AND c = 3"
    let right := "a = 1 AND (b = 2 AND c = 3)"
    let test (column : String) (n : Int64) := comparison column .eq (.integer n)
    JoinsFlatly conj Truth.all [test "a" 1] [all [test "b" 2, test "c" 3]] ∧
      ((QueryText.condition letters left).perform {}).1.map display =
        .ok "(a = 1 AND b = 2 AND c = 3)" ∧
      (QueryText.condition letters left).unplaced = (QueryText.condition letters right).unplaced ∧
      (Composer.compose ⟨letters, "query"⟩ [("query", .string left)] [] none none).unplaced =
        (Composer.compose ⟨letters, "query"⟩ [("query", .string right)] [] none none).unplaced := by
  intro left right test
  obtain ⟨joined, -, regrouped⟩ := flat_in_all_groups
  have a := Written.fieldIs "a" "1" (by decide) (by decide) (by decide) (by decide)
  have b := Written.fieldIs "b" "2" (by decide) (by decide) (by decide) (by decide)
  have c := Written.fieldIs "c" "3" (by decide) (by decide) (by decide) (by decide)
  obtain ⟨e, e', groups, read, read'⟩ := Written.groups a b c (by decide) (by decide)
  simp only [String.reduceAppend] at read read'
  obtain ⟨same, -, composed⟩ :=
    regrouped letters left right (.bare e) (.bare e') read read' ⟨groups, rfl, rfl, rfl⟩
  refine ⟨(joined _ _ (by decide) (by decide)).1, by decide +kernel, same, ?_⟩
  exact composed "query" _ _ [] none none List.lookup_cons_self List.lookup_cons_self (by simp)

end EntityQuery
