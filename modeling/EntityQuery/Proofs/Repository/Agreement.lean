import EntityQuery.Proofs.QueryText.NormalForm
import EntityQuery.Proofs.Repository.Statement

/-!
# Requests with and without a parser

Without a parser, a repository turns criteria into SQL on its own. On plain criteria, scalars and
lists of scalars for fields that are stored as they are, this comes to what a parser makes of the
same criteria with each list written as a membership test: entry by entry, the expression is the one
that the comparison is lowered to, and an entry that is refused is refused with the same error.
-/

namespace EntityQuery

open Lookup

/-! ## Plain criteria -/

namespace Json

/-- Whether a value is a scalar. -/
def isScalar : Json → Bool
  | array _ | object _ => false
  | _ => true

/-- Whether a value is the null value. -/
def isNull : Json → Bool
  | null => true
  | _ => false

/-- Whether a value is a scalar or a list of scalars that are not null. -/
def isPlain : Json → Bool
  | array items => items.all fun item => item.isScalar && !item.isNull
  | v => v.isScalar

/-- A list as a membership test; any other value as it is. -/
def membership : Json → Json
  | array items => object [("op", string "IN"), ("value", array items)]
  | v => v

end Json

namespace Value

/-- The operator that plain criteria compare with: membership for a list, equality otherwise. -/
def plainOperator (v : Value) : Operator := if v.isList then .isIn else .eq

/-- Whether a value is neither null nor a list. -/
def isItem : Value → Bool
  | null | list _ => false
  | _ => true

/-- What plain criteria hold: a scalar or a list of items. -/
def IsPlainCriterion : Value → Prop
  | list items => ∀ item ∈ items, item.isItem
  | _ => True

theorem ofScalar?_of_isItem {v : Json} (scalar : v.isScalar) (some : v.isNull = false) :
    ∃ item : Value, ofScalar? v = Option.some item ∧ item.isItem := by
  cases v with
  | integer i =>
      refine ⟨ofInt i, rfl, ?_⟩
      unfold ofInt
      split <;> rfl
  | bool b => exact ⟨_, rfl, rfl⟩
  | real d => exact ⟨_, rfl, rfl⟩
  | string s => exact ⟨_, rfl, rfl⟩
  | null => cases some
  | array items => cases scalar
  | object fields => cases scalar

theorem ofScalars?_of_isItem {items : List Json}
    (plain : ∀ item ∈ items, item.isScalar ∧ item.isNull = false) :
    ∃ values : List Value, items.mapM ofScalar? = some values ∧ ∀ v ∈ values, v.isItem := by
  induction items with
  | nil => exact ⟨[], rfl, by simp⟩
  | cons item items ih =>
      obtain ⟨scalar, given⟩ := plain item List.mem_cons_self
      obtain ⟨v, first, isItem⟩ := ofScalar?_of_isItem scalar given
      obtain ⟨values, further, areItems⟩ := ih fun v mem => plain v (List.mem_cons_of_mem item mem)
      refine ⟨v :: values, ?_, List.forall_mem_cons.2 ⟨isItem, areItems⟩⟩
      rw [List.mapM_cons, first, further]
      rfl

/-- A plain value is read to the same operand with and without a parser. -/
theorem operand_of_isPlain {v : Json} (plain : v.isPlain) :
    ∃ value : Value, ofJson? v = some value ∧ value.IsPlainCriterion ∧
      Criteria.operand v.membership = .ok (value.plainOperator, value) := by
  cases v with
  | null => exact ⟨_, rfl, trivial, rfl⟩
  | bool b => exact ⟨_, rfl, trivial, rfl⟩
  | real d => exact ⟨_, rfl, trivial, rfl⟩
  | string s => exact ⟨_, rfl, trivial, rfl⟩
  | integer i =>
      obtain ⟨value, read, isItem⟩ := ofScalar?_of_isItem (v := .integer i) rfl rfl
      cases read
      refine ⟨ofInt i, rfl, ?_, ?_⟩
      · unfold ofInt
        split <;> trivial
      · have noList : (ofInt i).isList = false := by
          unfold ofInt
          split <;> rfl
        rw [plainOperator, noList]
        rfl
  | object fields => cases plain
  | array items =>
      have each : ∀ item ∈ items, item.isScalar ∧ item.isNull = false := by
        simpa [Json.isPlain] using plain
      obtain ⟨values, read, areItems⟩ := ofScalars?_of_isItem each
      have whole : ofJson? (.array items) = some (.list values) := by
        rw [ofJson?_array, read]
        rfl
      refine ⟨.list values, whole, areItems, ?_⟩
      have operator : Operator.ofText? "IN" = some .isIn := by decide
      simp [Json.membership, Criteria.operand, List.lookup_cons, operator, whole, plainOperator,
        isList]

end Value

/-! ## Entries -/

namespace FieldMapping

/-- Plain criteria pass every check of a field that is stored as it is. -/
theorem comparison_of_plain {m : FieldMapping} (identity : m.transform = .identity)
    (field : String) {v : Value} (plain : v.IsPlainCriterion) :
    m.comparison field v.plainOperator v = .ok (.comparison m.column v.plainOperator v) := by
  have noFault : fault? v.plainOperator v = none := by
    cases v with
    | list items =>
        have given : items.any Value.isNull = false := by
          rw [List.any_eq_false]
          intro item mem
          have isItem := plain item mem
          cases item <;> first | exact Bool.false_ne_true | cases isItem
        simp [Value.plainOperator, Value.isList, fault?, Operator.isMembership, given]
    | _ => rfl
  rw [comparison, noFault, identity, apply_identity]

end FieldMapping

namespace PlainCriteria

theorem literal_of_isItem {column : String} {item : Value} (isItem : item.isItem) :
    Lowering.literal column item = .ok (literal item) := by
  cases item <;> first | rfl | cases isItem

theorem mapM_literal {column : String} {items : List Value} (areItems : ∀ v ∈ items, v.isItem) :
    items.mapM (Lowering.literal column) = .ok (items.map literal) := by
  rw [mapM_eq_ok, List.forall₂_map_right_iff, List.forall₂_same]
  exact fun item mem => literal_of_isItem (areItems item mem)

/-- The expression of an entry is the one that its comparison is lowered to. -/
theorem lowered_comparison (column : String) {v : Value} (plain : v.IsPlainCriterion) :
    Lowering.comparison column v.plainOperator v = .ok (comparison column v) := by
  cases v with
  | list items =>
      cases items with
      | nil => rfl
      | cons item items =>
          change ((item :: items).mapM (Lowering.literal column) >>= fun literals =>
            .ok (Sql.Expr.inList (rootColumn column) literals false)) = _
          rw [mapM_literal plain]
          rfl
  | _ => rfl

/-- A comparison and the expression it is lowered to. -/
def Lowers (c : Condition) (e : Sql.Expr) : Prop :=
  (∃ column op v, c = .comparison column op v) ∧ Lowering.expr c = .ok e

section

variable {p : Persister} {field : String} {v : Json}

/-- An entry is refused alike with and without a parser, or comes to the same expression. -/
theorem entry_corresponds (plain : v.isPlain)
    (identity : ∀ m, p.catalog.mapping? p.entity field = some m → m.transform = .identity) :
    Corresponds Lowers (Criteria.comparison p field v.membership).fresh
      (entry p field v).fresh := by
  obtain ⟨value, read, plain, operand⟩ := Value.operand_of_isPlain plain
  rw [Criteria.fresh_comparison, fresh_entry, read, operand, Persister.mapping]
  cases known : p.catalog.mapping? p.entity field with
  | none => exact .error _
  | some m =>
      have checked := FieldMapping.comparison_of_plain (identity m known) field plain
      refine Corresponds.bind (R := fun a b => a = m ∧ b = m) (.ok ⟨rfl, rfl⟩) ?_
      rintro _ _ ⟨rfl, rfl⟩
      dsimp only
      rw [checked]
      refine .ok ⟨⟨_, _, _, rfl⟩, ?_⟩
      rw [Lowering.expr]
      exact lowered_comparison _ plain

end

/-! ## Filters -/

theorem memberExprs_of_lowers {cs : List Condition} {es : List Sql.Expr}
    (h : List.Forall₂ Lowers cs es) : Lowering.memberExprs cs = .ok es := by
  induction h with
  | nil => rw [Lowering.memberExprs]
  | cons first further ih =>
      obtain ⟨⟨column, op, v, rfl⟩, lowered⟩ := first
      rw [Lowering.memberExprs, lowered, ih]
      rfl

theorem flat_of_lowers {cs : List Condition} {es : List Sql.Expr} (h : List.Forall₂ Lowers cs es) :
    ∀ c ∈ cs, c.isAll = false := by
  induction h with
  | nil => simp
  | cons first further ih =>
      obtain ⟨⟨column, op, v, rfl⟩, -⟩ := first
      exact List.forall_mem_cons.2 ⟨rfl, ih⟩

/-- The conjunction of comparisons has the filter that is chained of their expressions. -/
theorem filter_of_lowers {cs : List Condition} {es : List Sql.Expr}
    (h : List.Forall₂ Lowers cs es) : Lowering.filter (.conj cs) = .ok (filter es) := by
  match cs, es, h with
  | [], [], _ => rfl
  | [c], [e], h =>
      obtain ⟨⟨⟨column, op, v, rfl⟩, lowered⟩, -⟩ := List.forall₂_cons.1 h
      rw [Condition.conj_single rfl, Lowering.filter, lowered]
      rfl
  | c :: d :: cs, e :: e' :: es, h =>
      have several : Condition.conj (c :: d :: cs) = .all (c :: d :: cs) :=
        Condition.conj_of_flat (by simp) (flat_of_lowers h)
      have notTrivial : (Condition.all (c :: d :: cs)).isTrivial = false := rfl
      have single : Lowering.expr (.all (c :: d :: cs)) =
          .ok (Lowering.chain .and true (e :: e' :: es)) := by
        rw [Lowering.expr, memberExprs_of_lowers h]
        rfl
      rw [several, Lowering.filter, notTrivial, single]
      rfl

end PlainCriteria

/-! ## Requests -/

namespace Repository

/-- Two requests with the same outcome: the same statement is sent in one call and answered alike,
or both fail with the same error and nothing is sent. -/
def SameExchange {α : Type} (call : String → Call) (a b : Reply α) : Prop :=
  (∃ sql, a.calls = [call sql] ∧ b.calls = [call sql] ∧ a.result = b.result) ∨
    ∃ e, a.calls = [] ∧ b.calls = [] ∧ a.result = .error e ∧ b.result = .error e

theorem sameExchange_of_answer {α : Type} {statement : QueryResult Sql.Select}
    {call : String → Call} {ask : String → Except BackendFailure α} {a b : Reply α}
    (first : (a.calls, a.result) = answer statement call ask)
    (second : (b.calls, b.result) = answer statement call ask) : SameExchange call a b := by
  obtain ⟨calls, result⟩ := Prod.mk.inj first
  obtain ⟨calls', result'⟩ := Prod.mk.inj second
  cases statement with
  | ok s => exact .inl ⟨s.text, calls, calls', result.trans result'.symm⟩
  | error e => exact .inr ⟨e, calls, calls', result, result'⟩

/-- Criteria that a parser adds nothing to: plain values of fields that are stored as they are, and
no query text. -/
structure IsPlain (p : Persister) (reservedKey : String) (criteria : Criteria) : Prop where
  values : ∀ x ∈ criteria, x.2.isPlain
  stored : ∀ x ∈ criteria, ∀ m,
    p.catalog.mapping? p.entity x.1 = some m → m.transform = .identity
  noDefaultText : criteria.lookup defaultReservedKey = none
  noText : criteria.lookup reservedKey = none

variable {p : Persister} {c : Composer} {criteria : Criteria}

/-- The criteria with every list written as a membership test. -/
def memberships (criteria : Criteria) : Criteria := criteria.map fun x => (x.1, x.2.membership)

/-- Criteria without a key have no entry of this key to leave out, and no text under it. -/
theorem filter_memberships {key : String} (absent : criteria.lookup key = none) :
    (memberships criteria).filter (·.1 != key) = memberships criteria ∧
      (memberships criteria).lookup key = none := by
  induction criteria with
  | nil => exact ⟨rfl, rfl⟩
  | cons x rest ih =>
      obtain ⟨field, v⟩ := x
      rw [List.lookup_cons] at absent
      split at absent
      · cases absent
      · next other =>
          obtain ⟨kept, none⟩ := ih absent
          rw [memberships] at kept none
          have distinct : (field != key) = true := by
            simpa [bne, BEq.comm] using other
          refine ⟨?_, ?_⟩
          · rw [memberships, List.map_cons, List.filter_cons, if_pos distinct, kept]
          · rw [memberships, List.map_cons, List.lookup_cons, other]
            exact none

/-- Plain criteria come down to the same statement with and without a parser. -/
theorem statement_memberships (plain : IsPlain p c.reservedKey criteria) (request : SortRequest)
    (limit offset : Option Nat) :
    ({ persister := p } : Repository).statement criteria request limit offset =
      (({ persister := p } : Repository).install c).statement (memberships criteria) request limit
        offset := by
  obtain ⟨kept, noText⟩ := filter_memberships plain.noText
  let composer : Composer := ⟨p, c.reservedKey⟩
  have base : (composer.base? (memberships criteria)).fresh = .ok none := by
    rw [Composer.base?, noText]
    rfl
  have installed : (({ persister := p } : Repository).install c).composer? = some composer := rfl
  have entries : Corresponds (List.Forall₂ PlainCriteria.Lowers)
      ((memberships criteria).mapM fun x => (Criteria.comparison p x.1 x.2).fresh)
      (criteria.mapM fun x => (PlainCriteria.entry p x.1 x.2).fresh) := by
    refine Corresponds.mapM ?_
    rw [memberships, List.forall₂_map_left_iff, List.forall₂_same]
    exact fun x mem => PlainCriteria.entry_corresponds (plain.values x mem) (plain.stored x mem)
  rw [statement_of_plain rfl, plain.noDefaultText, statement_of_composer installed]
  dsimp only [install]
  rw [base, Criteria.fresh_condition, kept]
  generalize (memberships criteria).mapM (fun x => (Criteria.comparison p x.1 x.2).fresh) = cs,
    criteria.mapM (fun x => (PlainCriteria.entry p x.1 x.2).fresh) = es at entries ⊢
  cases entries with
  | error e => rfl
  | ok related =>
      have filter := PlainCriteria.filter_of_lowers related
      cases (Criteria.order p request).fresh with
      | error e => rfl
      | ok order =>
          change _ = (Lowering.filter (Composer.merge none (.conj _)) >>= _)
          rw [Composer.merge, filter]
          rfl

/-- After any histories, plain criteria are exchanged alike with and without a parser. -/
theorem sameExchange_memberships {memo memo' : Memo} (b : Backend) (h : p.Remembers memo)
    (h' : p.Remembers memo') (plain : IsPlain p c.reservedKey criteria) (request : SortRequest)
    (limit offset : Option Nat) :
    SameExchange .all
        (findBy { persister := p } b memo criteria request limit offset)
        (findBy (install { persister := p } c) b memo' (memberships criteria) request limit
          offset) ∧
      SameExchange .one
        (findOneBy { persister := p } b memo criteria request)
        (findOneBy (install { persister := p } c) b memo' (memberships criteria) request) := by
  constructor
  · refine sameExchange_of_answer (findBy_eq_answer b h) ?_
    rw [statement_memberships plain request limit offset]
    exact findBy_eq_answer (r := install { persister := p } c) b h'
  · refine sameExchange_of_answer (findOneBy_eq_answer b h) ?_
    rw [statement_memberships plain request (some 1) none]
    exact findOneBy_eq_answer (r := install { persister := p } c) b h'

/-- A persister of users with a name, an address and an age. -/
def users : Persister where
  handle := 1
  catalog := ⟨[⟨"User", "users", none, ["id"],
    [⟨"name", none, .identity⟩, ⟨"email", none, .identity⟩, ⟨"age", none, .identity⟩]⟩]⟩
  entity := "User"
  casing := .lower

/-- Two ages, an address and no name. -/
def nameless : Criteria :=
  [("age", .array [.integer 30, .integer 40]), ("email", .string "o'brien@example.org"),
    ("name", .null)]

/-- The users without a name are asked for alike with and without a parser, by this statement. -/
theorem nameless_sameExchange :
    let b := Backend.fixed [] 0 none
    let plain := findBy { persister := users } b {} nameless [("age", "DESC")] (some 2) none
    let parsed := findBy (install { persister := users } ⟨users, "where"⟩) b {}
      (memberships nameless) [("age", "DESC")] (some 2) none
    SameExchange .all plain parsed ∧
      parsed.calls = [.all ("SELECT e.* FROM users e WHERE e.age IN (30, 40) AND " ++
        "e.email = 'o''brien@example.org' AND e.name IS NULL ORDER BY e.age DESC LIMIT 2")] := by
  intro b plain parsed
  refine ⟨(sameExchange_memberships b .nothing .nothing ?_ [("age", "DESC")] (some 2) none).1, ?_⟩
  · refine ⟨?_, ?_, rfl, rfl⟩
    · decide
    · intro x mem m known
      simp only [nameless, List.mem_cons, List.not_mem_nil, or_false] at mem
      rcases mem with rfl | rfl | rfl <;>
        (cases known
         rfl)
  · decide

end Repository

end EntityQuery
