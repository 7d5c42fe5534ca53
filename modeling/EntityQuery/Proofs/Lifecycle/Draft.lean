import EntityQuery.Proofs.Lifecycle.Coherence

/-!
# Queries as drafts

To its users a query is a draft: a condition, an order and a page, which are written until an owner
is attached and stay as they are from then on. The stage of the query and its statement are no part
of it. What operations do to a draft is said without a query first. A query does the same to the
draft that it stands for and refuses what the draft refuses, so a run of any length leads to the
same draft; what else happens to a query is that its stage advances.
-/

namespace EntityQuery

/-- What has been written, and the persister that it belongs to, once there is one. -/
structure Draft where
  condition : Option Condition := none
  order : Option SortOrder := none
  limit : Option Nat := none
  offset : Option Nat := none
  owner : Option Persister := none

namespace Operation

/-- Whether an operation is an entry into a draft: a write, or the choice of an owner. -/
def isEntry : Operation → Bool
  | setClause _ _ | setLimit _ | setOffset _ | bind _ => true
  | native | countForm _ | execute _ _ | executeOne _ _ => false

/-- The condition that an operation writes. -/
def condition? : Operation → Option (Option Condition)
  | setClause _ (.condition c) => some (some c)
  | _ => none

/-- The order that an operation writes. -/
def order? : Operation → Option (Option SortOrder)
  | setClause _ (.order keys) => some (some keys)
  | _ => none

/-- The limit that an operation writes. -/
def limit? : Operation → Option (Option Nat)
  | setLimit limit => some limit
  | _ => none

/-- The offset that an operation writes. -/
def offset? : Operation → Option (Option Nat)
  | setOffset offset => some offset
  | _ => none

/-- The operation is a run that the backend has been asked for, and its failure is the backend's. -/
def FailsInBackend (op : Operation) (effect : Effect) : Prop :=
  match op with
  | execute _ b => ∃ sql f, effect.calls = [.all sql] ∧ b.all sql = .error f ∧
      effect.failure = some f.toQueryError
  | executeOne _ b => ∃ sql f, effect.calls = [.one sql] ∧ b.one sql = .error f ∧
      effect.failure = some f.toQueryError
  | _ => False

end Operation

namespace Draft

/-- Why an entry is refused: its name is looked at first, then whether there is an owner, and the
kind of the expression last. -/
def refusal? (d : Draft) : Operation → Option QueryError
  | .setClause name e =>
    match ClauseName.ofText? name with
    | none => some (.unknownClause name)
    | some slot =>
      if d.owner.isSome then some .queryFrozen
      else if e.slot = slot then none
      else some (.clauseMismatch slot e.slot)
  | .setLimit _ | .setOffset _ => if d.owner.isSome then some .queryFrozen else none
  | .bind _ => if d.owner.isSome then some .alreadyBound else none
  | .native | .countForm _ | .execute _ _ | .executeOne _ _ => none

/-- The draft with an entry. -/
def entered (d : Draft) : Operation → Draft
  | .setClause _ (.condition c) => { d with condition := some c }
  | .setClause _ (.order keys) => { d with order := some keys }
  | .setLimit limit => { d with limit }
  | .setOffset offset => { d with offset }
  | .bind p => { d with owner := some p }
  | .native | .countForm _ | .execute _ _ | .executeOne _ _ => d

/-- The draft after an operation. -/
def perform (d : Draft) (op : Operation) : Draft :=
  if (d.refusal? op).isNone then d.entered op else d

/-- The draft after a run of operations. -/
def run (d : Draft) (ops : List Operation) : Draft := ops.foldl perform d

/-- The expression in the slot of a name. -/
def clause (d : Draft) (name : String) : QueryResult (Option ClauseExpression) :=
  match ClauseName.ofText? name with
  | some .condition => .ok (d.condition.map .condition)
  | some .order => .ok (d.order.map .order)
  | none => .error (.unknownClause name)

/-- Whether the slot of a name holds something. -/
def hasClause (d : Draft) (name : String) : Bool :=
  match ClauseName.ofText? name with
  | some .condition => d.condition.isSome
  | some .order => d.order.isSome
  | none => false

section

variable {d : Draft} {op : Operation}

theorem condition_entered : (d.entered op).condition = op.condition?.getD d.condition := by
  cases op with
  | setClause name e => cases e <;> rfl
  | _ => rfl

theorem order_entered : (d.entered op).order = op.order?.getD d.order := by
  cases op with
  | setClause name e => cases e <;> rfl
  | _ => rfl

theorem limit_entered : (d.entered op).limit = op.limit?.getD d.limit := by
  cases op with
  | setClause name e => cases e <;> rfl
  | _ => rfl

theorem offset_entered : (d.entered op).offset = op.offset?.getD d.offset := by
  cases op with
  | setClause name e => cases e <;> rfl
  | _ => rfl

/-- With an owner every entry is refused, and nothing else changes a draft. -/
theorem perform_of_owner {p : Persister} (owner : d.owner = some p) (op : Operation) :
    d.perform op = d := by
  cases op with
  | setClause name e =>
      rw [perform, refusal?, owner]
      cases ClauseName.ofText? name <;> rfl
  | setLimit _ | setOffset _ | bind _ =>
      rw [perform, refusal?, owner]
      rfl
  | native | countForm _ | execute _ _ | executeOne _ _ => rfl

theorem run_of_owner {p : Persister} (owner : d.owner = some p) (ops : List Operation) :
    d.run ops = d := by
  induction ops with
  | nil => rfl
  | cons op ops ih =>
      rw [run, List.foldl_cons, perform_of_owner owner op]
      exact ih

end

end Draft

/-- The last of the accepted entries that write some part of a draft, or what was there before. -/
def lastAccepted {β : Type} (part : Operation → Option β) (before : β)
    (steps : List (Operation × Effect)) : β :=
  let accepted := steps.filter fun s => s.2.failure.isNone
  (accepted.filterMap fun s => part s.1).getLast?.getD before

/-- The place of a stage in the life of a query. -/
def Stage.rank : Stage → Nat
  | unbound => 0
  | bound => 1
  | lowered => 2
  | executed => 3

namespace Query

/-- The query after a run of operations. -/
def run (q : Query) (ops : List Operation) : Query := ops.foldl (fun q op => (op.perform q).query) q

/-- The draft that a query stands for. -/
def draft (q : Query) : Draft :=
  ⟨q.clauses.condition, q.clauses.order, q.clauses.limit, q.clauses.offset, q.persister?⟩

/-- A query tells its users what a draft says. -/
structure Shows (q : Query) (d : Draft) : Prop where
  clause : ∀ name, q.clause name = d.clause name
  hasClause : ∀ name, q.hasClause name = d.hasClause name
  condition : q.clauses.condition = d.condition
  order : q.clauses.order = d.order
  limit : q.clauses.limit = d.limit
  offset : q.clauses.offset = d.offset
  persister : q.persister? = d.owner

variable {q r : Query}

theorem shows_draft (q : Query) : q.Shows q.draft := by
  refine ⟨fun name => ?_, fun name => ?_, rfl, rfl, rfl, rfl, rfl⟩
  · rw [Query.clause, Draft.clause]
    cases ClauseName.ofText? name with
    | none => rfl
    | some slot => cases slot <;> rfl
  · rw [Query.hasClause, Draft.hasClause]
    cases ClauseName.ofText? name with
    | none => rfl
    | some slot => cases slot <;> simp [slot?, draft]

/-! ## Entries -/

/-- What is decided by the stage is told by the owner: whether the query can be written. -/
theorem Coherent.writable {α : Type} (h : Coherent q) (open? frozen : α) :
    (match q.stage with | .unbound => open? | _ => frozen) =
      if q.draft.owner.isSome then frozen else open? := by
  rw [draft]
  cases attached : q.persister? with
  | none =>
      rw [h.attached.1 attached]
      rfl
  | some p =>
      have bound : q.stage ≠ .unbound := by
        simp [← h.attached, attached]
      cases stage : q.stage <;> first | exact absurd stage bound | rfl

theorem Coherent.change_eq (h : Coherent q) (f : Clauses → Clauses) :
    q.change f =
      if q.draft.owner.isSome then .error .queryFrozen
      else .ok { q with clauses := f q.clauses } :=
  h.writable _ _

theorem Coherent.bind_eq (h : Coherent q) (p : Persister) :
    q.bind p =
      if q.draft.owner.isSome then .error .alreadyBound
      else .ok { q with persister? := some p, stage := .bound } :=
  h.writable _ _

theorem Coherent.setClause_eq (h : Coherent q) (name : String) (e : ClauseExpression) :
    q.setClause name e =
      match q.draft.refusal? (.setClause name e) with
      | some refusal => .error refusal
      | none => .ok { q with clauses := put e q.clauses } := by
  rw [setClause, Draft.refusal?]
  cases ClauseName.ofText? name with
  | none => rfl
  | some slot =>
      dsimp only
      rw [h.change_eq]
      split
      · rfl
      · by_cases same : e.slot = slot
        · rw [if_pos same]
          exact if_pos same
        · rw [if_neg same]
          exact if_neg same

/-- An entry into a query is refused for the reason that it is refused in the draft, and is made in
the draft otherwise. -/
theorem Coherent.entry (h : Coherent q) {op : Operation} (entry : op.isEntry) :
    (op.perform q).failure = q.draft.refusal? op ∧
      (op.perform q).query.draft = q.draft.perform op := by
  cases op with
  | setClause name e =>
      rw [Operation.perform, h.setClause_eq, Draft.perform]
      cases q.draft.refusal? (.setClause name e) with
      | some refusal => exact ⟨rfl, rfl⟩
      | none => cases e <;> exact ⟨rfl, rfl⟩
  | setLimit limit =>
      rw [Operation.perform, setLimit, h.change_eq, Draft.perform, Draft.refusal?]
      cases q.draft.owner.isSome <;> exact ⟨rfl, rfl⟩
  | setOffset offset =>
      rw [Operation.perform, setOffset, h.change_eq, Draft.perform, Draft.refusal?]
      cases q.draft.owner.isSome <;> exact ⟨rfl, rfl⟩
  | bind p =>
      rw [Operation.perform, h.bind_eq, Draft.perform, Draft.refusal?]
      cases q.draft.owner.isSome <;> exact ⟨rfl, rfl⟩
  | native | countForm _ | execute _ _ | executeOne _ _ => cases entry

/-! ## Requests -/

/-- A request for the statement leaves the query as it was, or it lowers a bound query. -/
theorem Coherent.native_query (h : Coherent q) :
    q.native.2 = q ∨
      q.stage = .bound ∧ ∃ n, q.native.2 = { q with native? := some n, stage := .lowered } := by
  unfold native
  cases attached : q.persister? with
  | none => exact .inl rfl
  | some p =>
      cases made : q.native? with
      | some n => exact .inl rfl
      | none =>
          have stage := h.stage_of_fresh attached made
          cases lowered : p.lower q.clauses with
          | error e => exact .inl (by simp only [lowered])
          | ok n =>
              refine .inr ⟨stage, n, ?_⟩
              simp only [lowered, keep, stage, attached, if_true]

/-- What a run comes to: it is refused before the backend is asked, the backend fails, or the
backend answers. -/
theorem runNative_cases {α : Type} (p : Persister) (q : Query)
    (change : NativeQuery → NativeQuery) (call : String → Call)
    (answer : String → Except BackendFailure α) :
    (∃ e, p.runNative q change call answer = ⟨q, [], .error e⟩) ∨
      ∃ sql, (∃ f, answer sql = .error f ∧
          p.runNative q change call answer = ⟨q.native.2, [call sql], .error f.toQueryError⟩) ∨
        ∃ a, answer sql = .ok a ∧
          p.runNative q change call answer = ⟨q.native.2.markExecuted, [call sql], .ok a⟩ := by
  unfold Persister.runNative
  split
  · obtain ⟨e, refused⟩ | ⟨bound, n, made, -, -, -⟩ := native_cases q
    · rw [refused]
      exact .inl ⟨e, rfl⟩
    · have request : q.native = (.ok n, q.native.2) := Prod.ext made rfl
      rw [request]
      refine .inr ⟨(change n).sql, ?_⟩
      dsimp only
      cases answered : answer (change n).sql with
      | error f => exact .inl ⟨f, rfl, rfl⟩
      | ok a => exact .inr ⟨a, rfl, rfl⟩
  · exact .inl ⟨_, rfl⟩

theorem Coherent.draft_native (h : Coherent q) : q.native.2.draft = q.draft := by
  obtain same | ⟨-, n, lowered⟩ := h.native_query
  · rw [same]
  · rw [lowered]
    rfl

theorem Coherent.draft_runNative (h : Coherent q) {α : Type} (p : Persister)
    (change : NativeQuery → NativeQuery) (call : String → Call)
    (answer : String → Except BackendFailure α) :
    (p.runNative q change call answer).query.draft = q.draft := by
  obtain ⟨e, refused⟩ | ⟨sql, ⟨f, -, failed⟩ | ⟨a, -, answered⟩⟩ :=
    runNative_cases p q change call answer
  · rw [refused]
  · rw [failed]
    exact h.draft_native
  · rw [answered]
    exact h.draft_native

/-! ## Runs -/

/-- Every operation does to the draft of a query what it does to a draft. -/
theorem Coherent.draft_perform (h : Coherent q) (op : Operation) :
    (op.perform q).query.draft = q.draft.perform op := by
  cases op with
  | setClause name e => exact (h.entry rfl).2
  | setLimit limit => exact (h.entry rfl).2
  | setOffset offset => exact (h.entry rfl).2
  | bind p => exact (h.entry rfl).2
  | native => exact h.draft_native
  | countForm memo => rfl
  | execute p b => exact h.draft_runNative p id .all b.all
  | executeOne p b => exact h.draft_runNative p .single .one b.one

theorem Coherent.perform (h : Coherent q) (op : Operation) : Coherent (op.perform q).query :=
  (perform_moves q op).coherent h

theorem Coherent.run (h : Coherent q) (ops : List Operation) : Coherent (q.run ops) := by
  induction ops generalizing q with
  | nil => exact h
  | cons op ops ih => exact ih (h.perform op)

/-- A run of operations leads to the draft that the same run of a draft leads to. -/
theorem Coherent.draft_run (h : Coherent q) (ops : List Operation) :
    (q.run ops).draft = q.draft.run ops := by
  induction ops generalizing q with
  | nil => rfl
  | cons op ops ih =>
      have rest := ih (h.perform op)
      rw [h.draft_perform op] at rest
      exact rest

/-- The draft of a bound query stays as it is. -/
theorem Coherent.draft_run_of_bound (h : Coherent q) {p : Persister}
    (attached : q.persister? = some p) (ops : List Operation) : (q.run ops).draft = q.draft := by
  rw [h.draft_run, Draft.run_of_owner attached]

/-! ## The last entries -/

theorem lastAccepted_cons {β : Type} (part : Operation → Option β) (before : β)
    (s : Operation × Effect) (steps : List (Operation × Effect)) :
    lastAccepted part before (s :: steps) =
      lastAccepted part (if s.2.failure.isNone then (part s.1).getD before else before) steps := by
  rw [lastAccepted, lastAccepted]
  cases accepted : s.2.failure.isNone with
  | false => simp [accepted]
  | true =>
      cases written : part s.1 with
      | none => simp [accepted, written]
      | some b =>
          simp only [List.filter_cons, accepted, if_true, List.filterMap_cons, written,
            List.getLast?_cons, Option.getD_some]

/-- An operation that fails changes no part of a draft, and one that succeeds changes the part that
it writes. -/
theorem Coherent.part_perform (h : Coherent q) {β : Type} {get : Draft → β}
    {part : Operation → Option β} (writes : ∀ d op, get (d.entered op) = (part op).getD (get d))
    (op : Operation) :
    get (op.perform q).query.draft =
      if (op.perform q).failure.isNone then (part op).getD (get q.draft) else get q.draft := by
  rw [h.draft_perform, Draft.perform, ← writes]
  cases entry : op.isEntry with
  | true =>
      rw [(h.entry entry).1]
      split <;> rfl
  | false =>
      have same : q.draft.entered op = q.draft := by
        cases op <;> first | rfl | cases entry
      rw [same]
      simp

/-- Each part of a query holds the last accepted entry of a run. -/
theorem Coherent.part_run (h : Coherent q) {β : Type} {get : Draft → β}
    {part : Operation → Option β} (writes : ∀ d op, get (d.entered op) = (part op).getD (get d))
    (ops : List Operation) :
    get (q.run ops).draft = lastAccepted part (get q.draft) (q.trace ops) := by
  induction ops generalizing q with
  | nil => rfl
  | cons op ops ih =>
      rw [trace, lastAccepted_cons, ← h.part_perform writes op]
      exact ih (h.perform op)

/-! ## Stages and failures -/

/-- No move goes back to an earlier stage. -/
theorem Move.rank_le (move : Move q r) : q.stage.rank ≤ r.stage.rank := by
  cases move with
  | write clauses unbound => exact Nat.le_refl _
  | attach p unbound => simp [unbound, Stage.rank]
  | keep attached fresh lowered =>
      by_cases bound : q.stage = .bound <;> simp [Query.keep, bound, Stage.rank]
  | answer attached kept => cases stage : q.stage <;> simp [markExecuted, Stage.rank]

theorem Moves.rank_le (moves : Moves q r) : q.stage.rank ≤ r.stage.rank := by
  induction moves with
  | refl => exact Nat.le_refl _
  | tail _ move ih => exact Nat.le_trans ih move.rank_le

theorem rank_le_run (q : Query) (ops : List Operation) :
    q.stage.rank ≤ (q.run ops).stage.rank := by
  induction ops generalizing q with
  | nil => exact Nat.le_refl _
  | cons op ops ih => exact Nat.le_trans (Moves.rank_le (perform_moves q op)) (ih _)

/-- A run that fails leaves the query as it was, unless it is the backend that fails on a bound
query. -/
theorem Coherent.runNative_of_failure (h : Coherent q) {α : Type} (p : Persister)
    (change : NativeQuery → NativeQuery) (call : String → Call)
    (answer : String → Except BackendFailure α)
    (failed : (failure? (p.runNative q change call answer).result).isSome) :
    (p.runNative q change call answer).query = q ∨
      q.stage = .bound ∧
        (∃ sql f, (p.runNative q change call answer).calls = [call sql] ∧ answer sql = .error f ∧
          failure? (p.runNative q change call answer).result = some f.toQueryError) ∧
        ∃ n, (p.runNative q change call answer).query =
          { q with native? := some n, stage := .lowered } := by
  obtain ⟨e, refused⟩ | ⟨sql, ⟨f, answered, failure⟩ | ⟨a, -, done⟩⟩ :=
    runNative_cases p q change call answer
  · rw [refused]
    exact .inl rfl
  · rw [failure]
    obtain same | ⟨bound, lowered⟩ := h.native_query
    · exact .inl same
    · exact .inr ⟨bound, ⟨sql, f, rfl, answered, rfl⟩, lowered⟩
  · rw [done] at failed
    cases failed

/-- An operation that fails leaves the query as it was, unless it is a run of a bound query that
fails in the backend: then the query keeps its statement. -/
theorem Coherent.perform_of_failure (h : Coherent q) {op : Operation} {e : QueryError}
    (failed : (op.perform q).failure = some e) :
    (op.perform q).query = q ∨
      q.stage = .bound ∧ op.FailsInBackend (op.perform q) ∧
        ∃ n, (op.perform q).query = { q with native? := some n, stage := .lowered } := by
  have refused (result : QueryResult Query) (failed : (Effect.ofChange q result).failure = some e) :
      (Effect.ofChange q result).query = q := by
    cases result with
    | ok changed => cases failed
    | error _ => rfl
  cases op with
  | setClause name x => exact .inl (refused _ failed)
  | setLimit limit => exact .inl (refused _ failed)
  | setOffset offset => exact .inl (refused _ failed)
  | bind p => exact .inl (refused _ failed)
  | countForm memo => exact .inl rfl
  | native =>
      obtain ⟨e', same⟩ | ⟨p, n, made, -⟩ := native_cases q
      · exact .inl (by rw [Operation.perform, same])
      · rw [Operation.perform, made] at failed
        cases failed
  | execute p b =>
      exact h.runNative_of_failure p id .all b.all (Option.isSome_of_mem failed)
  | executeOne p b =>
      exact h.runNative_of_failure p .single .one b.one (Option.isSome_of_mem failed)

/-- A query refines a draft. After any run of operations it shows what the draft holds after the
same run: in each part the last entry that has been accepted, and nothing that came after its owner.
Its stage has not gone back, entries are refused as the draft refuses them, and an operation that
fails leaves the whole query alone, but for the statement that a failing backend has been asked. -/
theorem Reachable.refines_draft (h : Reachable q) (ops : List Operation) :
    (q.run ops).Shows (q.draft.run ops) ∧
      ((q.run ops).clauses.condition =
          lastAccepted Operation.condition? q.clauses.condition (q.trace ops) ∧
        (q.run ops).clauses.order =
          lastAccepted Operation.order? q.clauses.order (q.trace ops) ∧
        (q.run ops).clauses.limit =
          lastAccepted Operation.limit? q.clauses.limit (q.trace ops) ∧
        (q.run ops).clauses.offset =
          lastAccepted Operation.offset? q.clauses.offset (q.trace ops)) ∧
      (∀ p, q.persister? = some p → (q.run ops).draft = q.draft) ∧
      q.stage.rank ≤ (q.run ops).stage.rank ∧
      ∀ op,
        (op.isEntry → (op.perform (q.run ops)).failure = (q.run ops).draft.refusal? op) ∧
        ∀ e, (op.perform (q.run ops)).failure = some e →
          (op.perform (q.run ops)).query = q.run ops ∨
            (q.run ops).stage = .bound ∧ op.FailsInBackend (op.perform (q.run ops)) ∧
              ∃ n, (op.perform (q.run ops)).query =
                { q.run ops with native? := some n, stage := .lowered } := by
  have coherent := h.coherent
  have after := coherent.run ops
  have holds {β : Type} {get : Draft → β} {part : Operation → Option β}
      (writes : ∀ d op, get (d.entered op) = (part op).getD (get d)) :=
    coherent.part_run writes ops
  refine ⟨?_, ⟨holds fun _ _ => Draft.condition_entered, holds fun _ _ => Draft.order_entered,
      holds fun _ _ => Draft.limit_entered, holds fun _ _ => Draft.offset_entered⟩,
    fun p attached => coherent.draft_run_of_bound attached ops, rank_le_run q ops, fun op => ?_⟩
  · rw [← coherent.draft_run ops]
    exact (q.run ops).shows_draft
  · exact ⟨fun entry => (after.entry entry).1, fun e failed => after.perform_of_failure failed⟩

/-- A run with an entry that replaces another one, an entry into the wrong slot, an entry after the
owner, and a backend that is busy. -/
def hastyRun : List Operation :=
  [.setClause "condition" (.condition (.comparison "age" .gtEq (.integer 21))),
    .setClause "condition" (.condition (.comparison "age" .gtEq (.integer 18))),
    .setClause "order" (.condition .always), .setLimit (some 10), .bind users,
    .setLimit (some 20), .execute users (.fixed [] 0 (some (.failed "busy")))]

/-- What the run leaves is the first ten adults in no order. -/
theorem hastyRun_refines :
    let r := ({} : Query).run hastyRun
    Reachable {} ∧
      r.clause "condition" =
        .ok (some (.condition (.comparison "age" .gtEq (.integer 18)))) ∧
      r.hasClause "order" = false ∧ r.clauses.limit = some 10 ∧ r.persister? = some users ∧
      ((Operation.setOffset none).perform r).failure = some .queryFrozen ∧ r.stage = .lowered := by
  intro r
  obtain ⟨shows, ⟨-, -, limit, -⟩, -, -, steps⟩ := Reachable.empty.refines_draft hastyRun
  refine ⟨.empty, (shows.clause "condition").trans rfl, (shows.hasClause "order").trans rfl,
    limit.trans ?_, shows.persister.trans rfl, ((steps (.setOffset none)).1 rfl).trans ?_, ?_⟩
  all_goals rfl

end Query

end EntityQuery
