import EntityQuery.Composer
import EntityQuery.Proofs.Filter.Fitting
import EntityQuery.Proofs.QueryText.Narrowed

/-!
# What is read can be lowered

The shape of an operand is checked when a condition is read, before the value is transformed, and
lowering asks for it again. In between nothing changes it: a transform makes a list of a list and a
scalar of a scalar, and no way of writing a value puts a list inside a list. So every query that is
read has a statement wherever there is a table, and a count wherever there is an identity, too.
-/

namespace EntityQuery

open ConditionText Lookup

/-- A comparison that is made of a flat value can be lowered. -/
theorem FieldMapping.fits_comparison {m : FieldMapping} {field : String} {op : Operator}
    {v : Value} {c : Condition} (flat : v.isFlat) (h : m.comparison field op v = .ok c) :
    c.Fits := by
  obtain ⟨noFault, w, applied, rfl⟩ := comparison_eq_ok h
  rw [Condition.fits_comparison, Operator.admits, Transform.apply_isList applied,
    isList_of_noFault noFault, Transform.apply_isFlat applied flat]
  simp

/-- The query of fitting parts fits. -/
theorem Query.fits_ofParts {condition : Condition} {order : SortOrder}
    {limit offset : Option Nat} (fits : condition.Fits) :
    (ofParts condition order limit offset).clauses.Fits := by
  rintro _ ⟨⟩
  exact fits

/-! ## Criteria -/

namespace Criteria

variable {p : Persister}

theorem isFlat_of_operand {j : Json} {op : Operator} {v : Value} (h : operand j = .ok (op, v)) :
    v.isFlat := by
  obtain ⟨fields, value, -, -, read⟩ | read := operand_cases h
  · exact Value.isFlat_of_ofJson? read
  · exact Value.isFlat_of_ofJson? (Value.ofJson?_of_ofScalar? read)

theorem fits_comparison {field : String} {j : Json} {c : Condition}
    (h : (comparison p field j).fresh = .ok c) : c.Fits := by
  obtain ⟨m, op, value, -, read, compared⟩ := comparison_eq_ok.1 h
  exact FieldMapping.fits_comparison (isFlat_of_operand read) compared

theorem fits_condition {key : String} {criteria : Criteria} {c : Condition}
    (h : (condition p key criteria).fresh = .ok c) : c.Fits := by
  obtain ⟨cs, each, rfl⟩ := condition_eq_ok.1 h
  exact Condition.fits_conj.2 (forall_of_forall₂ each fun _ _ => fits_comparison)

end Criteria

/-! ## Query text -/

namespace QueryText

variable {p : Persister} {text : List Char}

theorem isList_of_value? {e : Expr} {v : Value} (h : value? e = some v) : v.isList = false := by
  have number {digits : String} {negative : Bool} (h : number? digits negative = some v) :
      v.isList = false := by
    unfold number? at h
    dsimp only at h
    split at h
    · cases h
      rfl
    · obtain ⟨d, -, rfl⟩ := Option.map_eq_some_iff.1 h
      rfl
  unfold value? at h
  split at h <;> first | exact number h | (cases h <;> rfl)

theorem isList_of_literal {e : Expr} {v : Value} (h : literal text e = .ok v) :
    v.isList = false :=
  isList_of_value? (literal_eq_ok.1 h).1

theorem fits_comparison {target : Expr} {op : Operator} {v : Value} {c : Condition}
    (flat : v.isFlat) (h : (comparison p text target op v).fresh = .ok c) : c.Fits := by
  obtain ⟨name, m, -, -, compared⟩ := comparison_eq_ok.1 h
  exact FieldMapping.fits_comparison flat compared

/-- Connectives join what fits, and the operand of every test is a literal or a list of them. -/
theorem Narrows.fits {e : Expr} {c : Condition} (h : Narrows p text e c) : c.Fits := by
  induction h with
  | symbol known read compared | pattern read compared =>
      exact fits_comparison (Value.isFlat_of_isList (isList_of_literal read)) compared
  | membership read compared =>
      have scalars := forall_of_forall₂ (mapM_eq_ok.1 read) fun _ _ => isList_of_literal
      exact fits_comparison (Value.isFlat_list.2 scalars) compared
  | nullTest compared => exact fits_comparison rfl compared
  | conj _ _ ihl ihr => exact Condition.fits_conj.2 (by simp [ihl, ihr])
  | disj _ _ ihl ihr => exact Condition.fits_disj.2 (by simp [ihl, ihr])
  | nested _ ih => exact ih

theorem fits_condition {text : String} {c : Condition}
    (h : (condition p text).fresh = .ok c) : c.Fits := by
  obtain ⟨-, rfl⟩ | ⟨s, -, -, -, narrowed⟩ := condition_cases h
  · exact Condition.fits_always
  · exact narrowed.fits

theorem fits_query {text : String} {q : Query} (h : (query p text).fresh = .ok q) :
    q.clauses.Fits := by
  obtain ⟨-, rfl⟩ | ⟨s, c, keys, limit, offset, -, -, narrowed, -, rfl⟩ := query_cases h
  · exact Query.fits_ofParts Condition.fits_always
  · exact Query.fits_ofParts (narrows_of_narrow narrowed).fits

end QueryText

/-! ## Queries -/

namespace Composer

variable {c : Composer} {criteria : Criteria}

theorem fits_base? {base : Option Condition} (h : (c.base? criteria).fresh = .ok base) :
    ∀ condition ∈ base, condition.Fits := by
  obtain ⟨-, rfl⟩ | ⟨text, condition, -, read, rfl⟩ := base?_cases h
  · simp
  · simpa using QueryText.fits_condition read

theorem fits_merge {base : Option Condition} {condition : Condition}
    (text : ∀ condition ∈ base, condition.Fits) (own : condition.Fits) :
    (merge base condition).Fits := by
  cases base with
  | none => exact own
  | some base =>
      rw [merge, extend]
      split
      · exact text base rfl
      · exact Condition.fits_conj.2 (by simp [text base rfl, own])

end Composer

namespace Persister

/-- The queries that a persister with some memory reads: of criteria, of criteria with query text
under a reserved key, and of query text. -/
inductive Reads (p : Persister) (memo : Memo) : Query → Prop
  | criteria {key : String} {criteria : Criteria} {request : SortRequest}
      {limit offset : Option Nat} {q : Query}
      (read : ((criteria.read p key request limit offset).perform memo).1 = .ok q) :
      Reads p memo q
  | composed {key : String} {criteria : Criteria} {request : SortRequest}
      {limit offset : Option Nat} {q : Query}
      (read : ((Composer.compose ⟨p, key⟩ criteria request limit offset).perform memo).1 = .ok q) :
      Reads p memo q
  | text {text : String} {q : Query} (read : ((QueryText.query p text).perform memo).1 = .ok q) :
      Reads p memo q

variable {p r : Persister} {memo memo' : Memo} {q : Query}

/-- Every query that is read fits. -/
theorem Reads.fits (read : p.Reads memo q) (h : p.Remembers memo) : q.clauses.Fits := by
  cases read with
  | @criteria key criteria request limit offset _ read =>
      rw [h.perform_eq (Criteria.settled_read key criteria request limit offset),
        Criteria.fresh_read] at read
      obtain ⟨condition, compared, read⟩ := bind_eq_ok.1 read
      obtain ⟨order, -, read⟩ := bind_eq_ok.1 read
      cases read
      exact Query.fits_ofParts (Criteria.fits_condition compared)
  | @composed key criteria request limit offset _ read =>
      have settled : Settled p (Composer.compose ⟨p, key⟩ criteria request limit offset) :=
        Composer.settled_compose (c := ⟨p, key⟩) criteria request limit offset
      rw [h.perform_eq settled, Composer.fresh_compose] at read
      obtain ⟨condition, compared, read⟩ := bind_eq_ok.1 read
      obtain ⟨order, -, read⟩ := bind_eq_ok.1 read
      obtain ⟨base, found, read⟩ := bind_eq_ok.1 read
      cases read
      have own := Criteria.fits_condition compared
      exact Query.fits_ofParts (Composer.fits_merge (Composer.fits_base? found) own)
  | @text text _ read =>
      rw [h.perform_eq (QueryText.settled_query text)] at read
      exact QueryText.fits_query read

theorem lower_ok_iff {c : Clauses} : (∃ n, p.lower c = .ok n) ↔ c.Fits ∧ p.HasTable := by
  rw [← select_ok_iff, lower]
  cases p.select c <;> simp [Except.map]

/-- Clauses that have a statement have a count exactly if the entity has an identity. -/
theorem countForm_ok_iff {c : Clauses} (made : ∃ s, r.select c = .ok s)
    (h : r.Remembers memo) :
    (∃ f, ((r.countForm c).perform memo).1 = .ok f) ↔
      ∃ i, (r.identity.perform memo).1 = .ok i := by
  obtain ⟨s, made⟩ := made
  rw [h.perform_eq (settled_countForm c), h.perform_eq settled_identity, fresh_countForm, made]
  cases r.identity.fresh with
  | ok i => exact iff_of_true ⟨_, rfl⟩ ⟨i, rfl⟩
  | error e =>
      refine iff_of_false ?_ ?_ <;>
        rintro ⟨_, ⟨⟩⟩

/-- Every query that a persister reads, whatever it has been asked before, is lowered by every
persister whose entity has a table, in particular by the one that reads it; and this persister
counts what the query finds exactly if the identity of its entity is available. -/
theorem Reads.lowers (read : p.Reads memo q) (remembers : p.Remembers memo) (table : r.HasTable)
    (remembers' : r.Remembers memo') :
    (∃ n, r.lower q.clauses = .ok n) ∧
      ((∃ f, ((r.countForm q.clauses).perform memo').1 = .ok f) ↔
        ∃ i, (r.identity.perform memo').1 = .ok i) := by
  have fits := read.fits remembers
  exact ⟨lower_ok_iff.2 ⟨fits, table⟩, countForm_ok_iff (select_ok_iff.2 ⟨fits, table⟩) remembers'⟩

/-- A persister of tickets, whose numbers are compared as integers however they are written. -/
def tickets : Persister where
  handle := 1
  catalog := ⟨[⟨"Ticket", "tickets", none, ["number"],
    [⟨"number", none, .integer⟩, ⟨"state", none, .uppercase⟩]⟩]⟩
  entity := "Ticket"
  casing := .lower

/-- The tickets that are open or new, without two of them, are read from lists of texts. -/
theorem tickets_lowers :
    ∃ q, tickets.Reads {} q ∧
      (tickets.lower q.clauses).map (·.sql) = .ok ("SELECT e.* FROM tickets e " ++
        "WHERE e.state IN ('OPEN', 'NEW') AND e.number NOT IN (7, 8)") ∧
      (∃ n, tickets.lower q.clauses = .ok n) ∧
      ((∃ f, ((tickets.countForm q.clauses).perform {}).1 = .ok f) ↔
        ∃ i, (tickets.identity.perform {}).1 = .ok i) := by
  let criteria : Criteria :=
    [("query", .string "state IN ('open', 'new')"),
      ("number", .object [("op", .string "not in"), ("value", .array [.string "7", .string "8"])])]
  have lowered : (((Composer.compose ⟨tickets, "query"⟩ criteria [] none none).perform {}).1.bind
      fun q => (tickets.lower q.clauses).map (·.sql)) =
        .ok ("SELECT e.* FROM tickets e " ++
          "WHERE e.state IN ('OPEN', 'NEW') AND e.number NOT IN (7, 8)") := by
    decide +kernel
  obtain ⟨q, composed, sql⟩ := bind_eq_ok.1 lowered
  have read : tickets.Reads {} q := .composed composed
  exact ⟨q, read, sql, read.lowers .nothing rfl .nothing⟩

end Persister

end EntityQuery
