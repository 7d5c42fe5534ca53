import EntityQuery.DistinctCount
import EntityQuery.PlainCriteria
import EntityQuery.Proofs.Memory.Built

/-!
# The operations of a persister are settled

Reading criteria and query text, composing the two, making the statement of plain criteria and
counting ask the persister for mappings and for its identity and do nothing else with its memory, so
all of them are settled. Their results are given here as what the catalog alone makes of the
arguments. A persister remembers what a history of such requests has left, and this is always true.
-/

namespace EntityQuery

open ConditionText Lookup

variable {p : Persister}

/-! ## Query text -/

namespace QueryText

variable {text : List Char}

theorem built_comparison (target : Expr) (op : Operator) (v : Value) :
    Built p (comparison p text target op v) :=
  (Built.ofResult _).bind fun name =>
    (Persister.built_resolve name).bind fun m => .ofResult (m.comparison name op v)

theorem fresh_comparison (target : Expr) (op : Operator) (v : Value) :
    (comparison p text target op v).fresh = (do
      let name ← field text target
      let m ← p.mapping name
      m.comparison name op v) := by
  rw [comparison, fresh_bind (.ofResult p _) fun name =>
    (Persister.settled_resolve name).bind fun m => .ofResult p (m.comparison name op v)]
  refine bind_congr fun name => ?_
  rw [fresh_bind (Persister.settled_resolve name) fun m => .ofResult p (m.comparison name op v),
    Persister.fresh_resolve]
  rfl

theorem comparison_eq_ok {target : Expr} {op : Operator} {v : Value} {c : Condition} :
    (comparison p text target op v).fresh = .ok c ↔ ∃ name m, field? target = some name ∧
      p.catalog.mapping? p.entity name = some m ∧ m.comparison name op v = .ok c := by
  simp only [fresh_comparison, bind_eq_ok, field_eq_ok, Persister.mapping_eq_ok, exists_and_left]

theorem built_narrow (e : Expr) : Built p (narrow p text e) := by
  apply narrow_induction
  case conj | disj =>
    intro a b first second
    exact first.bind fun _ => second.bind fun _ => .pure p _
  case single =>
    intro target op operand
    exact (Built.ofResult _).bind fun v => built_comparison target op v
  case several =>
    intro target op items
    exact (Built.ofResult _).bind fun vs => built_comparison target op (.list vs)
  case missing => exact fun target op => built_comparison target op .null
  case refused => exact fun position => .ofResult _

theorem settled_narrow (e : Expr) : Settled p (narrow p text e) :=
  (built_narrow e).settled

theorem built_sortKey (t : OrderTerm) : Built p (sortKey p text t) :=
  (Built.ofResult _).bind fun name =>
    (Persister.built_resolve name).bind fun _ => .pure p _

theorem settled_sortKey (t : OrderTerm) : Settled p (sortKey p text t) :=
  (built_sortKey t).settled

theorem fresh_sortKey (t : OrderTerm) :
    (sortKey p text t).fresh = (do
      let name ← field text t.key
      let m ← p.mapping name
      .ok ⟨m.column, if t.ascending = some false then .desc else .asc⟩) := by
  rw [sortKey, fresh_bind (.ofResult p _) fun name =>
    (Persister.settled_resolve name).bind fun _ => .pure p _]
  refine bind_congr fun name => ?_
  rw [fresh_bind (Persister.settled_resolve name) fun _ => .pure p _, Persister.fresh_resolve]
  rfl

/-- What is made of a statement that stands for a bare condition. -/
theorem built_ofStatement (s : Statement) :
    Built p (if s.tail.order.isSome || s.tail.limit.isSome || s.tail.offset.isSome then
      Lookup.ofResult (refusal (keywordPosition pagingKeywords text) "end of condition")
    else narrow p text s.condition) := by
  split
  · exact .ofResult _
  · exact built_narrow s.condition

theorem built_condition (text : String) : Built p (condition p text) := by
  unfold condition
  dsimp only
  split
  · exact .pure p _
  · exact (Built.ofResult _).bind fun s => built_ofStatement s

theorem settled_condition (text : String) : Settled p (condition p text) :=
  (built_condition text).settled

theorem built_narrowQuery (s : Statement) : Built p (narrowQuery p text s) :=
  (built_narrow s.condition).bind fun _ =>
    (Built.mapM built_sortKey).bind fun _ =>
      (Built.ofResult _).bind fun _ => (Built.ofResult _).bind fun _ => .pure p _

/-- The query of a statement is put together of what its parts are read to. -/
theorem fresh_narrowQuery (s : Statement) :
    (narrowQuery p text s).fresh = (do
      let condition ← (narrow p text s.condition).fresh
      let order ← (s.tail.order.getD []).mapM fun t => (sortKey p text t).fresh
      let limit ← s.tail.limit.mapM (natural text)
      let offset ← s.tail.offset.mapM (natural text)
      .ok (.ofParts condition order limit offset)) := by
  rw [narrowQuery, fresh_bind (settled_narrow s.condition) fun _ =>
    (Settled.mapM settled_sortKey).bind fun _ =>
      (Settled.ofResult p _).bind fun _ => (Settled.ofResult p _).bind fun _ => .pure p _]
  refine bind_congr fun condition => ?_
  rw [fresh_bind (Settled.mapM settled_sortKey) fun _ =>
    (Settled.ofResult p _).bind fun _ => (Settled.ofResult p _).bind fun _ => .pure p _,
    fresh_mapM settled_sortKey]
  refine bind_congr fun order => ?_
  rw [fresh_ofResult_bind]
  refine bind_congr fun limit => ?_
  rw [fresh_ofResult_bind]
  rfl

theorem built_query (text : String) : Built p (query p text) := by
  unfold query
  dsimp only
  split
  · exact .pure p _
  · exact (Built.ofResult _).bind fun s => built_narrowQuery s

theorem settled_query (text : String) : Settled p (query p text) :=
  (built_query text).settled

/-- What the query of a text consists of: the condition that always holds if the text is blank, and
otherwise the parts of a statement. -/
theorem query_cases {text : String} {q : Query} (h : (query p text).fresh = .ok q) :
    (Unicode.allBlank text ∧ q = .ofParts .always [] none none) ∨
      ∃ s c keys limit offset, ¬ Unicode.allBlank text ∧ statement text.toList = .ok s ∧
        (narrow p text.toList s.condition).fresh = .ok c ∧
        (s.tail.order.getD []).mapM (fun t => (sortKey p text.toList t).fresh) = .ok keys ∧
        q = .ofParts c keys limit offset := by
  unfold query at h
  dsimp only at h
  split at h
  · next blank =>
      cases h
      exact .inl ⟨blank, rfl⟩
  · next notBlank =>
      rw [fresh_ofResult_bind] at h
      obtain ⟨s, read, h⟩ := bind_eq_ok.1 h
      rw [fresh_narrowQuery] at h
      obtain ⟨c, narrowed, h⟩ := bind_eq_ok.1 h
      obtain ⟨keys, sorted, h⟩ := bind_eq_ok.1 h
      obtain ⟨limit, -, h⟩ := bind_eq_ok.1 h
      obtain ⟨offset, -, h⟩ := bind_eq_ok.1 h
      cases h
      exact .inr ⟨s, c, keys, limit, offset, notBlank, read, narrowed, sorted, rfl⟩

/-- A query that is read from text is new. -/
theorem eq_of_query {text : String} {q : Query} (h : (query p text).fresh = .ok q) :
    q = { clauses := q.clauses } := by
  obtain ⟨-, rfl⟩ | ⟨s, c, keys, limit, offset, -, -, -, -, rfl⟩ := query_cases h <;> rfl

end QueryText

/-! ## Criteria -/

namespace Criteria

theorem built_comparison (field : String) (v : Json) : Built p (comparison p field v) := by
  refine (Persister.built_resolve field).bind fun m => ?_
  cases operand v with
  | error fault => exact .throw p _
  | ok x => exact .ofResult _

theorem settled_comparison (field : String) (v : Json) : Settled p (comparison p field v) :=
  (built_comparison field v).settled

theorem fresh_comparison (field : String) (v : Json) :
    (comparison p field v).fresh = (do
      let m ← p.mapping field
      match operand v with
      | .ok (op, value) => m.comparison field op value
      | .error fault => .error (.invalidValue field fault)) := by
  have settled (m : FieldMapping) : Settled p (match operand v with
      | .ok (op, value) => Lookup.ofResult (m.comparison field op value)
      | .error fault => throw (.invalidValue field fault)) := by
    cases operand v with
    | error fault => exact .throw p _
    | ok x => exact .ofResult p _
  refine (fresh_bind (Persister.settled_resolve field) settled).trans ?_
  rw [Persister.fresh_resolve]
  refine bind_congr fun m => ?_
  cases operand v <;> rfl

theorem comparison_eq_ok {field : String} {v : Json} {c : Condition} :
    (comparison p field v).fresh = .ok c ↔ ∃ m op value,
      p.catalog.mapping? p.entity field = some m ∧ operand v = .ok (op, value) ∧
        m.comparison field op value = .ok c := by
  rw [fresh_comparison, bind_eq_ok]
  simp only [Persister.mapping_eq_ok]
  cases operand v with
  | error fault => simp
  | ok x => cases x; simp

theorem condition_eq (key : String) (criteria : Criteria) :
    condition p key criteria = Condition.conj <$>
      (criteria.filter (·.1 != key)).mapM fun x => comparison p x.1 x.2 := rfl

theorem built_condition (key : String) (criteria : Criteria) :
    Built p (condition p key criteria) := by
  rw [condition_eq]
  apply Built.map
  exact .mapM fun x => built_comparison x.1 x.2

theorem settled_condition (key : String) (criteria : Criteria) :
    Settled p (condition p key criteria) :=
  (built_condition key criteria).settled

theorem fresh_condition (key : String) (criteria : Criteria) :
    (condition p key criteria).fresh =
      ((criteria.filter (·.1 != key)).mapM fun x => (comparison p x.1 x.2).fresh).map
        Condition.conj := by
  have each (x : String × Json) : Settled p (comparison p x.1 x.2) := settled_comparison x.1 x.2
  rw [condition_eq, fresh_map Condition.conj (.mapM each), fresh_mapM each]

theorem condition_eq_ok {key : String} {criteria : Criteria} {c : Condition} :
    (condition p key criteria).fresh = .ok c ↔ ∃ cs,
      List.Forall₂ (fun x c => (comparison p x.1 x.2).fresh = .ok c)
        (criteria.filter (·.1 != key)) cs ∧ c = .conj cs := by
  rw [fresh_condition, map_eq_ok]
  exact exists_congr fun cs => and_congr mapM_eq_ok eq_comm

/-- The sort key of a field with a direction in words. -/
def sortKey (p : Persister) (field direction : String) : Lookup SortKey := do
  let m ← p.resolve field
  let direction ← Lookup.ofResult (Direction.ofText direction)
  pure ⟨m.column, direction⟩

theorem order_eq (request : SortRequest) :
    order p request = request.mapM fun x => sortKey p x.1 x.2 := rfl

theorem built_sortKey (field direction : String) : Built p (sortKey p field direction) :=
  (Persister.built_resolve field).bind fun _ => (Built.ofResult _).bind fun _ => .pure p _

theorem settled_sortKey (field direction : String) : Settled p (sortKey p field direction) :=
  (built_sortKey field direction).settled

theorem built_order (request : SortRequest) : Built p (order p request) := by
  rw [order_eq]
  exact .mapM fun x => built_sortKey x.1 x.2

theorem settled_order (request : SortRequest) : Settled p (order p request) :=
  (built_order request).settled

theorem fresh_sortKey (field direction : String) :
    (sortKey p field direction).fresh = (do
      let m ← p.mapping field
      let direction ← Direction.ofText direction
      .ok ⟨m.column, direction⟩) := by
  rw [sortKey, fresh_bind (Persister.settled_resolve field) fun _ =>
    (Settled.ofResult p _).bind fun _ => .pure p _, Persister.fresh_resolve]
  refine bind_congr fun m => ?_
  rw [fresh_ofResult_bind]
  rfl

theorem fresh_order (request : SortRequest) :
    (order p request).fresh = request.mapM fun x => (sortKey p x.1 x.2).fresh := by
  have each (x : String × String) : Settled p (sortKey p x.1 x.2) := settled_sortKey x.1 x.2
  rw [order_eq, fresh_mapM each]

theorem built_read (key : String) (criteria : Criteria) (request : SortRequest)
    (limit offset : Option Nat) : Built p (criteria.read p key request limit offset) :=
  (built_condition key criteria).bind fun _ => (built_order request).bind fun _ => .pure p _

theorem settled_read (key : String) (criteria : Criteria) (request : SortRequest)
    (limit offset : Option Nat) : Settled p (criteria.read p key request limit offset) :=
  (built_read key criteria request limit offset).settled

theorem fresh_read (key : String) (criteria : Criteria) (request : SortRequest)
    (limit offset : Option Nat) :
    (criteria.read p key request limit offset).fresh = (do
      let condition ← (condition p key criteria).fresh
      let order ← (order p request).fresh
      .ok (.ofParts condition order limit offset)) := by
  rw [read, fresh_bind (settled_condition key criteria) fun _ =>
    (settled_order request).bind fun _ => .pure p _]
  refine bind_congr fun condition => ?_
  rw [fresh_bind (settled_order request) fun _ => .pure p _]
  rfl

end Criteria

/-! ## Composing -/

namespace Composer

variable {c : Composer}

theorem built_base? (criteria : Criteria) : Built c.persister (c.base? criteria) := by
  unfold base?
  split
  · exact .pure _ _
  · exact (QueryText.built_condition _).map _
  · exact .throw _ _

theorem settled_base? (criteria : Criteria) : Settled c.persister (c.base? criteria) :=
  (built_base? criteria).settled

theorem fresh_base? (criteria : Criteria) :
    (c.base? criteria).fresh =
      match criteria.lookup c.reservedKey with
      | none => .ok none
      | some (.string text) => (QueryText.condition c.persister text).fresh.map some
      | some _ => .error (.invalidValue c.reservedKey .baseQueryNotText) := by
  rw [base?]
  cases criteria.lookup c.reservedKey with
  | none => rfl
  | some v =>
      cases v with
      | string text => exact fresh_map some (QueryText.settled_condition text)
      | _ => rfl

theorem base?_cases {criteria : Criteria} {base : Option Condition}
    (h : (c.base? criteria).fresh = .ok base) :
    (criteria.lookup c.reservedKey = none ∧ base = none) ∨
      ∃ text condition, criteria.lookup c.reservedKey = some (.string text) ∧
        (QueryText.condition c.persister text).fresh = .ok condition ∧ base = some condition := by
  rw [fresh_base?] at h
  split at h
  · next absent =>
      cases h
      exact .inl ⟨absent, rfl⟩
  · next text present =>
      obtain ⟨condition, read, rfl⟩ := map_eq_ok.1 h
      exact .inr ⟨text, condition, present, read, rfl⟩
  · cases h

theorem built_extended (q : Query) (base : Option Condition) :
    Built c.persister (match base with
      | none => pure q
      | some base =>
        let merged := extend base (q.clauses.condition.getD .always)
        Lookup.ofResult (q.setClause ClauseName.condition.text (.condition merged))) := by
  cases base with
  | none => exact .pure _ _
  | some base => exact .ofResult _

theorem built_compose (criteria : Criteria) (request : SortRequest) (limit offset : Option Nat) :
    Built c.persister (c.compose criteria request limit offset) :=
  (Criteria.built_read _ criteria request limit offset).bind fun q =>
    (built_base? criteria).bind fun base => built_extended q base

theorem settled_compose (criteria : Criteria) (request : SortRequest) (limit offset : Option Nat) :
    Settled c.persister (c.compose criteria request limit offset) :=
  (built_compose criteria request limit offset).settled

/-- The condition of criteria behind the one of the text under the reserved key. -/
def merge (base : Option Condition) (condition : Condition) : Condition :=
  match base with
  | none => condition
  | some base => extend base condition

/-- A composed query consists of what the criteria and the text are read to. -/
theorem fresh_compose (criteria : Criteria) (request : SortRequest) (limit offset : Option Nat) :
    (c.compose criteria request limit offset).fresh = (do
      let condition ← (Criteria.condition c.persister c.reservedKey criteria).fresh
      let order ← (Criteria.order c.persister request).fresh
      let base ← (c.base? criteria).fresh
      .ok (.ofParts (merge base condition) order limit offset)) := by
  have settled (q : Query) : Settled c.persister (c.base? criteria >>= fun base =>
      match base with
      | none => pure q
      | some base =>
        let merged := extend base (q.clauses.condition.getD .always)
        Lookup.ofResult (q.setClause ClauseName.condition.text (.condition merged))) :=
    (settled_base? criteria).bind fun base => (built_extended q base).settled
  refine (fresh_bind (Criteria.settled_read _ criteria request limit offset) settled).trans ?_
  rw [Criteria.fresh_read]
  cases (Criteria.condition c.persister c.reservedKey criteria).fresh with
  | error e => rfl
  | ok condition =>
      cases (Criteria.order c.persister request).fresh with
      | error e => rfl
      | ok order =>
          refine (fresh_bind (settled_base? criteria) fun base =>
            (built_extended _ base).settled).trans ?_
          cases (c.base? criteria).fresh with
          | error e => rfl
          | ok base => cases base <;> rfl

end Composer

/-! ## Plain criteria -/

namespace PlainCriteria

theorem built_entry (field : String) (v : Json) : Built p (entry p field v) := by
  refine (Persister.built_resolve field).bind fun m => ?_
  cases Value.ofJson? v with
  | none => exact .throw p _
  | some value => exact .pure p _

theorem settled_entry (field : String) (v : Json) : Settled p (entry p field v) :=
  (built_entry field v).settled

theorem fresh_entry (field : String) (v : Json) :
    (entry p field v).fresh = (do
      let m ← p.mapping field
      match Value.ofJson? v with
      | some value => .ok (comparison m.column value)
      | none => .error (.invalidValue field .unsupported)) := by
  have settled (m : FieldMapping) : Settled p (match Value.ofJson? v with
      | some value => pure (comparison m.column value)
      | none => throw (.invalidValue field .unsupported)) := by
    cases Value.ofJson? v with
    | none => exact .throw p _
    | some value => exact .pure p _
  refine (fresh_bind (Persister.settled_resolve field) settled).trans ?_
  rw [Persister.fresh_resolve]
  refine bind_congr fun m => ?_
  cases Value.ofJson? v <;> rfl

/-- The statement of plain criteria is made of the entries, the order and the table, and the key
that is reserved for query text is refused. -/
theorem select_eq (criteria : Criteria) (request : SortRequest) (limit offset : Option Nat) :
    select p criteria request limit offset =
      if (criteria.lookup defaultReservedKey).isSome then
        throw (.misconfigured (.baseQueryKey defaultReservedKey))
      else (do
        let entries ← criteria.mapM fun x => entry p x.1 x.2
        let order ← Criteria.order p request
        let table ← Lookup.ofResult p.rootTable
        pure
          { select :=
              ⟨false, [.allOf rootAlias], some table, filter entries, Lowering.order order, limit,
                offset⟩ }) := by
  rw [select]
  split <;> rfl

theorem built_select (criteria : Criteria) (request : SortRequest) (limit offset : Option Nat) :
    Built p (select p criteria request limit offset) := by
  have each (x : String × Json) : Built p (entry p x.1 x.2) := built_entry x.1 x.2
  rw [select_eq]
  split
  · exact .throw p _
  · refine (Built.mapM each).bind fun entries => ?_
    refine (Criteria.built_order request).bind fun order => ?_
    exact (Built.ofResult _).bind fun table => .pure p _

theorem settled_select (criteria : Criteria) (request : SortRequest) (limit offset : Option Nat) :
    Settled p (select p criteria request limit offset) :=
  (built_select criteria request limit offset).settled

theorem fresh_select (criteria : Criteria) (request : SortRequest) (limit offset : Option Nat) :
    (select p criteria request limit offset).fresh =
      if (criteria.lookup defaultReservedKey).isSome then
        .error (.misconfigured (.baseQueryKey defaultReservedKey))
      else (do
        let entries ← criteria.mapM fun x => (entry p x.1 x.2).fresh
        let order ← (Criteria.order p request).fresh
        let table ← p.rootTable
        .ok
          { select :=
              ⟨false, [.allOf rootAlias], some table, filter entries, Lowering.order order, limit,
                offset⟩ }) := by
  have each (x : String × Json) : Settled p (entry p x.1 x.2) := settled_entry x.1 x.2
  rw [select_eq]
  split
  · rfl
  · rw [fresh_bind (.mapM each) fun entries => (Criteria.settled_order request).bind fun order =>
      (Settled.ofResult p _).bind fun table => .pure p _, fresh_mapM each]
    refine bind_congr fun entries => ?_
    rw [fresh_bind (Criteria.settled_order request) fun order =>
      (Settled.ofResult p _).bind fun table => .pure p _]
    refine bind_congr fun order => ?_
    rw [fresh_ofResult_bind]
    rfl

theorem sql_of_select {criteria : Criteria} {request : SortRequest} {limit offset : Option Nat}
    {n : NativeQuery} (h : (select p criteria request limit offset).fresh = .ok n) :
    n.sql = n.select.text := by
  rw [fresh_select] at h
  split at h
  · cases h
  · obtain ⟨entries, -, h⟩ := bind_eq_ok.1 h
    obtain ⟨order, -, h⟩ := bind_eq_ok.1 h
    obtain ⟨table, -, h⟩ := bind_eq_ok.1 h
    cases h
    rfl

end PlainCriteria

/-! ## Counting -/

namespace Persister

theorem built_countForm (c : Clauses) : Built p (p.countForm c) :=
  built_identity.bind fun _ => (Built.ofResult _).bind fun _ => .pure p _

theorem settled_countForm (c : Clauses) : Settled p (p.countForm c) :=
  (built_countForm c).settled

/-- The counting statement is made of the identity and the statement of the clauses. -/
theorem fresh_countForm (c : Clauses) :
    (p.countForm c).fresh = (do
      let identity ← p.identity.fresh
      let base ← p.select c
      .ok (.ofSelect p.casing identity base)) := by
  rw [countForm, fresh_bind settled_identity fun _ =>
    (Settled.ofResult p _).bind fun _ => .pure p _]
  refine bind_congr fun identity => ?_
  rw [fresh_ofResult_bind]
  rfl

theorem countForm_eq_ok {c : Clauses} {f : CountForm} : (p.countForm c).fresh = .ok f ↔
    ∃ identity s, p.identity.fresh = .ok identity ∧ p.select c = .ok s ∧
      f = .ofSelect p.casing identity s := by
  rw [fresh_countForm, bind_eq_ok]
  constructor
  · rintro ⟨identity, known, made⟩
    obtain ⟨s, selected, made⟩ := bind_eq_ok.1 made
    exact ⟨identity, s, known, selected, (Except.ok.inj made).symm⟩
  · rintro ⟨identity, s, known, selected, rfl⟩
    exact ⟨identity, known, bind_eq_ok.2 ⟨s, selected, rfl⟩⟩

end Persister

/-! ## Histories -/

/-- A request that looks at and extends what a persister remembers. Fields are resolved for any
entity of the catalog; everything else is about the persister's own one. -/
inductive Persister.Request where
  | field (entity name : String)
  | identity
  | conditionText (text : String)
  | queryText (text : String)
  | read (reservedKey : String) (criteria : Criteria) (request : SortRequest)
    (limit offset : Option Nat)
  | compose (reservedKey : String) (criteria : Criteria) (request : SortRequest)
    (limit offset : Option Nat)
  | plain (criteria : Criteria) (request : SortRequest) (limit offset : Option Nat)
  | count (clauses : Clauses)

namespace Persister

/-- What is remembered after a request, also where it fails. -/
def Request.after (p : Persister) (memo : Memo) : Request → Memo
  | field entity name =>
    { memo with fields := (memo.fields.resolve p.catalog entity name).2 }
  | identity => (p.identity.perform memo).2
  | conditionText text => ((QueryText.condition p text).perform memo).2
  | queryText text => ((QueryText.query p text).perform memo).2
  | read key criteria request limit offset =>
    ((criteria.read p key request limit offset).perform memo).2
  | compose key criteria request limit offset =>
    ((Composer.compose ⟨p, key⟩ criteria request limit offset).perform memo).2
  | plain criteria request limit offset =>
    ((PlainCriteria.select p criteria request limit offset).perform memo).2
  | count clauses => ((p.countForm clauses).perform memo).2

/-- What a request comes to if it succeeds. -/
def Request.Result : Request → Type
  | field .. => FieldMapping
  | identity => Identity
  | conditionText _ => Condition
  | queryText _ | read .. | compose .. => Query
  | plain .. => NativeQuery
  | count _ => CountForm

/-- A request as an operation on what is remembered. -/
def Request.operation (p : Persister) : (r : Request) → Lookup r.Result
  | field entity name => ({ p with entity } : Persister).resolve name
  | identity => p.identity
  | conditionText text => QueryText.condition p text
  | queryText text => QueryText.query p text
  | read key criteria request limit offset => criteria.read p key request limit offset
  | compose key criteria request limit offset =>
    Composer.compose ⟨p, key⟩ criteria request limit offset
  | plain criteria request limit offset => PlainCriteria.select p criteria request limit offset
  | count clauses => p.countForm clauses

theorem Request.perform_operation (r : Request) (memo : Memo) :
    ((r.operation p).perform memo).2 = r.after p memo := by
  cases r <;> rfl

theorem Request.built_operation (r : Request) : Built p (r.operation p) := by
  cases r with
  | field entity name => exact .resolve entity name
  | identity => exact built_identity
  | conditionText text => exact QueryText.built_condition text
  | queryText text => exact QueryText.built_query text
  | read key criteria request limit offset =>
      exact Criteria.built_read key criteria request limit offset
  | compose key criteria request limit offset =>
      exact Composer.built_compose (c := ⟨p, key⟩) criteria request limit offset
  | plain criteria request limit offset =>
      exact PlainCriteria.built_select criteria request limit offset
  | count clauses => exact built_countForm clauses

/-- What a persister can remember: what some requests leave behind, whether they succeed or not. -/
inductive Remembers (p : Persister) : Memo → Prop
  | nothing : Remembers p {}
  | after {memo : Memo} (h : Remembers p memo) (r : Request) : Remembers p (r.after p memo)

/-- Every request keeps what is remembered true. -/
theorem Request.agrees {memo : Memo} (h : memo.Agrees p) (r : Request) :
    (r.after p memo).Agrees p := by
  rw [← r.perform_operation]
  exact (r.built_operation.settled memo h).2

/-- Whatever a persister has been asked, what it remembers is true. -/
theorem Remembers.agrees {memo : Memo} (h : p.Remembers memo) : memo.Agrees p := by
  induction h with
  | nothing => exact .empty p
  | after _ r ih => exact r.agrees ih

/-- After any history, a settled operation comes to the result that it has without one. -/
theorem Remembers.perform_eq {α : Type} {l : Lookup α} {memo : Memo} (h : p.Remembers memo)
    (settled : Settled p l) : (l.perform memo).1 = l.fresh :=
  (settled memo h.agrees).1

end Persister

end EntityQuery
