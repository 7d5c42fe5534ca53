import EntityQuery.Persister

/-!
# Queries

A query holds its clauses and has a stage: unbound, bound to a persister, lowered to a statement,
executed. The persister and the statement are kept beside the stage. Clauses change only while a
query is unbound, and the statement is made once, at the first request that succeeds.
-/

namespace EntityQuery

/-- How a count is taken: around the statement, or within it. -/
inductive CountStrategy where
  | outputWalker | treeWalker
  deriving DecidableEq, Repr

/-- The name of a strategy. -/
def CountStrategy.name : CountStrategy → String
  | outputWalker => "OutputWalker"
  | treeWalker => "TreeWalker"

/-- A statement ready to be sent: its structure, its text, and what is known about its result. The
text is that of the structure unless another one is given. -/
structure NativeQuery where
  select : Sql.Select
  sql : String := select.text
  distinct : Bool := false
  walker : Option CountStrategy := none
  deriving Inhabited

namespace NativeQuery

/-- The statement with another page. -/
def paginated (n : NativeQuery) (limit offset : Option Nat) : NativeQuery :=
  let select := n.select.paginated limit offset
  { n with select, sql := select.text }

/-- The statement capped at one row. -/
def single (n : NativeQuery) : NativeQuery := n.paginated (some 1) n.select.offset

end NativeQuery

/-- The statement of some clauses as a native query. -/
def Persister.lower (p : Persister) (c : Clauses) : QueryResult NativeQuery :=
  (p.select c).map fun select => { select }

/-- The stage of a query. -/
inductive Stage where
  | unbound | bound | lowered | executed
  deriving DecidableEq, Repr, Inhabited

/-- The name of a stage. -/
def Stage.name : Stage → String
  | unbound => "Unbound"
  | bound => "Bound"
  | lowered => "Lowered"
  | executed => "Executed"

/-- A query. -/
structure Query where
  clauses : Clauses := {}
  stage : Stage := .unbound
  /-- The persister that the query is bound to. -/
  persister? : Option Persister := none
  /-- The statement of the query, once it has been made. -/
  native? : Option NativeQuery := none
  deriving Inhabited

/-- What a clause slot can hold. -/
inductive ClauseExpression where
  | condition (c : Condition)
  | order (keys : SortOrder)

/-- The slot that an expression belongs to. -/
def ClauseExpression.slot : ClauseExpression → ClauseName
  | condition _ => .condition
  | order _ => .order

namespace Query

/-- The unbound query with the given parts. -/
def ofParts (condition : Condition) (order : SortOrder) (limit offset : Option Nat) : Query :=
  { clauses := .ofParts condition order limit offset }

/-- What a slot holds. -/
def slot? (q : Query) : ClauseName → Option ClauseExpression
  | .condition => q.clauses.condition.map .condition
  | .order => q.clauses.order.map .order

/-- The expression of the slot of a name. -/
def clause (q : Query) (name : String) : QueryResult (Option ClauseExpression) :=
  match ClauseName.ofText? name with
  | some slot => .ok (q.slot? slot)
  | none => .error (.unknownClause name)

/-- Whether the slot of a name holds something; a name without a slot has nothing. -/
def hasClause (q : Query) (name : String) : Bool :=
  match ClauseName.ofText? name with
  | some slot => (q.slot? slot).isSome
  | none => false

/-- A change of the clauses, allowed while the query is unbound. -/
def change (q : Query) (f : Clauses → Clauses) : QueryResult Query :=
  match q.stage with
  | .unbound => .ok { q with clauses := f q.clauses }
  | _ => .error .queryFrozen

/-- Clauses with an expression put into its slot. -/
def put (e : ClauseExpression) (c : Clauses) : Clauses :=
  match e with
  | .condition condition => { c with condition := some condition }
  | .order keys => { c with order := some keys }

/-- Puts an expression into the slot of a name. -/
def setClause (q : Query) (name : String) (e : ClauseExpression) : QueryResult Query :=
  match ClauseName.ofText? name with
  | none => .error (.unknownClause name)
  | some slot => do
    let changed ← q.change (put e)
    if e.slot = slot then .ok changed else .error (.clauseMismatch slot e.slot)

/-- Sets the greatest number of rows. -/
def setLimit (q : Query) (limit : Option Nat) : QueryResult Query :=
  q.change fun c => { c with limit }

/-- Sets the number of rows left out in front. -/
def setOffset (q : Query) (offset : Option Nat) : QueryResult Query :=
  q.change fun c => { c with offset }

/-- Attaches a persister; a query is bound once. -/
def bind (q : Query) (p : Persister) : QueryResult Query :=
  match q.stage with
  | .unbound => .ok { q with persister? := some p, stage := .bound }
  | _ => .error .alreadyBound

/-- Whether a query is bound to this very persister. -/
def isBoundTo (q : Query) (p : Persister) : Bool :=
  match q.persister? with
  | some bound => bound.handle == p.handle
  | none => false

/-- Keeps a statement that has just been made. -/
def keep (q : Query) (n : NativeQuery) : Query :=
  { q with native? := some n, stage := if q.stage = .bound then .lowered else q.stage }

/-- The statement of a query, made at the first request that succeeds, and the query after it. -/
def native (q : Query) : QueryResult NativeQuery × Query :=
  match q.persister?, q.native? with
  | none, _ => (.error .notBound, q)
  | some _, some n => (.ok n, q)
  | some p, none =>
    match p.lower q.clauses with
    | .ok n => (.ok n, q.keep n)
    | .error e => (.error e, q)

/-- The query after its statement has been answered. -/
def markExecuted (q : Query) : Query := { q with stage := .executed }

/-- Equality of two slots, where both are empty or hold equal things. -/
def slotEq {α : Type} (eq : α → α → Bool) : Option α → Option α → Bool
  | none, none => true
  | some a, some b => eq a b
  | _, _ => false

/-- Whether two queries have equal clauses and pages; their stages do not count. -/
def sameClauses (q r : Query) : Bool :=
  slotEq Condition.numericEq q.clauses.condition r.clauses.condition &&
    slotEq (· == ·) q.clauses.order r.clauses.order &&
    q.clauses.limit == r.clauses.limit && q.clauses.offset == r.clauses.offset

@[simp] theorem persister?_ofParts (c : Condition) (o : SortOrder) (l f : Option Nat) :
    (ofParts c o l f).persister? = none := rfl

end Query

end EntityQuery
