import EntityQuery.Proofs.QueryText.Accepted
import EntityQuery.Proofs.Refusal

/-!
# Faults of query text

Narrowing asks something of parts of a statement: a test of a condition has to be a comparison, what
it tests a field, what it tests it against literals, sort keys fields, and a limit or an offset
natural numbers. A part that does not answer is a fault, and narrowing refuses a text for its syntax
for nothing else.
-/

namespace EntityQuery

open ConditionText QueryText

/-- What is asked of a part of a statement. -/
inductive Demand where
  | comparison | operator | field | literal | finite | natural

namespace Demand

/-- How it is said that something is expected. -/
def expected : Demand → String
  | comparison | operator => "a comparison"
  | field => "a field reference"
  | literal => "a literal"
  | finite => "a finite number"
  | natural => "a non-negative integer"

/-- Whether an expression does not answer. -/
def FailedBy : Demand → Expr → Prop
  | comparison, e => e.isAtom
  | operator, .binary _ op _ => comparisonOperator? op = none
  | operator, _ => False
  | field, e => field? e = none
  | literal, e => value? e = none
  | finite, e => ∃ v, value? e = some v ∧ isInfinite v
  | natural, e => natural? e = none

/-- The position that is reported. -/
def position (text : List Char) : Demand → Expr → Nat
  | operator, .binary left _ _ => operatorPosition text left
  | _, e => e.position text

end Demand

namespace ConditionText

/-- What a test tests, if it is one. -/
def Expr.target? : Expr → Option Expr
  | .binary left op _ => (comparisonOperator? op).map fun _ => left
  | .like _ _ left _ _ => some left
  | .inList left _ _ => some left
  | .isNull left _ => some left
  | _ => none

/-- What a test tests it against. -/
def Expr.operands : Expr → List Expr
  | .binary _ op right => if (comparisonOperator? op).isSome then [right] else []
  | .like _ _ _ right _ => [right]
  | .inList _ items _ => items
  | _ => []

/-- What is asked of the parts of a test. -/
inductive Expr.Asks (t : Expr) : Demand → Expr → Prop
  | comparison : Asks t .comparison t
  | operator : Asks t .operator t
  | field {e : Expr} (target : t.target? = some e) : Asks t .field e
  | literal {e : Expr} (operand : e ∈ t.operands) : Asks t .literal e
  | finite {e : Expr} (operand : e ∈ t.operands) : Asks t .finite e

/-- What is asked of the parts of a statement. -/
inductive Statement.Asks (s : Statement) : Demand → Expr → Prop
  | test {t e : Expr} {d : Demand} (mem : t ∈ s.condition.tests) (asks : t.Asks d e) : Asks s d e
  | key {t : OrderTerm} (mem : t ∈ s.keys) : Asks s .field t.key
  | limit {e : Expr} (mem : e ∈ s.tail.limit) : Asks s .natural e
  | offset {e : Expr} (mem : e ∈ s.tail.offset) : Asks s .natural e

end ConditionText

namespace QueryText

variable {p : Persister} {text : List Char} {position : Nat} {what : String}

/-! ## What is reported -/

/-- A part does not answer, and its position is reported. -/
def Faulty (text : List Char) (asks : Demand → Expr → Prop) (position : Nat) (what : String) :
    Prop :=
  ∃ d e, asks d e ∧ d.FailedBy e ∧ what = d.expected ∧ position = d.position text e

theorem Faulty.mono {asks asks' : Demand → Expr → Prop} (h : Faulty text asks position what)
    (more : ∀ d e, asks d e → asks' d e) : Faulty text asks' position what := by
  obtain ⟨d, e, asked, failed, said, same⟩ := h
  exact ⟨d, e, more d e asked, failed, said, same⟩

theorem faulty_literal {e : Expr} {asks : Demand → Expr → Prop} (literal : asks .literal e)
    (finite : asks .finite e) (h : QueryText.literal text e = .error (.syntaxError position what)) :
    Faulty text asks position what := by
  unfold QueryText.literal at h
  split at h
  · next none =>
      cases h
      exact ⟨.literal, e, literal, none, rfl, rfl⟩
  · next v some =>
      split at h
      · next infinite =>
          cases h
          exact ⟨.finite, e, finite, ⟨v, some, infinite⟩, rfl, rfl⟩
      · cases h

theorem faulty_field {e : Expr} {asks : Demand → Expr → Prop} (field : asks .field e)
    (h : QueryText.field text e = .error (.syntaxError position what)) :
    Faulty text asks position what := by
  unfold QueryText.field at h
  split at h
  · cases h
  · next none =>
      cases h
      exact ⟨.field, e, field, none, rfl, rfl⟩

theorem faulty_natural {e : Expr} {asks : Demand → Expr → Prop} (natural : asks .natural e)
    (h : QueryText.natural text e = .error (.syntaxError position what)) :
    Faulty text asks position what := by
  unfold QueryText.natural at h
  split at h
  · cases h
  · next none =>
      cases h
      exact ⟨.natural, e, natural, none, rfl, rfl⟩

/-- The field of a name is no matter of syntax. -/
theorem not_syntax_of_resolve {name : String} {position : Nat} {what : String} :
    ¬ (p.resolve name).Answers (.error (.syntaxError position what)) := by
  rintro ⟨memo, after, done⟩
  rw [Persister.resolve_perform, FieldCache.resolve] at done
  split at done
  · cases done
  · dsimp only at done
    split at done <;> cases done

theorem not_syntax_of_comparison {m : FieldMapping} {name : String} {op : Operator} {v : Value} :
    m.comparison name op v ≠ .error (.syntaxError position what) := by
  intro h
  unfold FieldMapping.comparison at h
  split at h
  · cases h
  · split at h <;> cases h

theorem faulty_comparison {target : Expr} {op : Operator} {v : Value}
    {asks : Demand → Expr → Prop} (field : asks .field target)
    (h : (comparison p text target op v).Answers (.error (.syntaxError position what))) :
    Faulty text asks position what := by
  obtain first | ⟨name, -, h⟩ := h.bind_error
  · exact faulty_field field first.of_ofResult
  obtain first | ⟨m, -, h⟩ := h.bind_error
  · exact absurd first not_syntax_of_resolve
  · exact absurd h.of_ofResult not_syntax_of_comparison

theorem faulty_test {t : Expr} (single : t.isJoined = false)
    (h : (narrow p text t).Answers (.error (.syntaxError position what))) :
    Faulty text t.Asks position what := by
  cases t with
  | binary left op right =>
      obtain ⟨notAnd, notOr⟩ := Expr.not_connective_of_single single
      cases operator : comparisonOperator? op with
      | none =>
          rw [narrow_noOperator notAnd notOr operator] at h
          cases h.of_ofResult
          exact ⟨.operator, _, .operator, operator, rfl, rfl⟩
      | some op' =>
          rw [narrow_operator operator] at h
          have operand : right ∈ (Expr.binary left op right).operands := by
            simp [Expr.operands, operator]
          obtain first | ⟨v, -, h⟩ := h.bind_error
          · exact faulty_literal (.literal operand) (.finite operand) first.of_ofResult
          · exact faulty_comparison (.field (by rw [Expr.target?, operator]; rfl)) h
  | like negated any target pattern escape =>
      rw [narrow] at h
      obtain first | ⟨v, -, h⟩ := h.bind_error
      · exact faulty_literal (.literal (List.mem_singleton_self _))
          (.finite (List.mem_singleton_self _)) first.of_ofResult
      · exact faulty_comparison (.field rfl) h
  | inList target items negated =>
      rw [narrow] at h
      obtain first | ⟨vs, -, h⟩ := h.bind_error
      · obtain ⟨e, mem, failed⟩ := mapM_error first.of_ofResult
        exact faulty_literal (.literal mem) (.finite mem) failed
      · exact faulty_comparison (.field rfl) h
  | isNull target negated =>
      rw [narrow] at h
      exact faulty_comparison (.field rfl) h
  | nested inner => cases single
  | _ =>
      cases h.of_ofResult
      exact ⟨.comparison, _, .comparison, rfl, rfl, rfl⟩

/-- A condition is refused for its syntax only for a part that does not answer. -/
theorem faulty_narrow {s : Statement}
    (h : (narrow p text s.condition).Answers (.error (.syntaxError position what))) :
    Faulty text s.Asks position what := by
  obtain ⟨t, mem, failed⟩ := narrow_error h
  exact (faulty_test (Expr.isJoined_of_mem_tests mem) failed).mono fun d e asks => .test mem asks

theorem option_mapM_error {α β ε : Type} {f : α → Except ε β} {a? : Option α} {e : ε}
    (h : a?.mapM f = .error e) : ∃ a ∈ a?, f a = .error e := by
  cases a? with
  | none => cases h
  | some a =>
      rw [Option.mapM_some] at h
      cases first : f a with
      | error e' =>
          rw [first] at h
          cases h
          exact ⟨a, rfl, first⟩
      | ok b =>
          rw [first] at h
          cases h

/-- A query is refused for its syntax only for a part that does not answer. -/
theorem faulty_narrowQuery {s : Statement}
    (h : (narrowQuery p text s).Answers (.error (.syntaxError position what))) :
    Faulty text s.Asks position what := by
  obtain condition | ⟨c, -, h⟩ := h.bind_error
  · exact faulty_narrow condition
  obtain keys | ⟨order, -, h⟩ := h.bind_error
  · obtain ⟨t, mem, failed⟩ := keys.mapM_error
    obtain first | ⟨name, -, h⟩ := failed.bind_error
    · exact faulty_field (.key mem) first.of_ofResult
    obtain second | ⟨m, -, memo, after, done⟩ := h.bind_error
    · exact absurd second not_syntax_of_resolve
    · cases done
  obtain limit | ⟨n, -, h⟩ := h.bind_error
  · obtain ⟨e, mem, failed⟩ := option_mapM_error limit.of_ofResult
    exact faulty_natural (.limit mem) failed
  obtain offset | ⟨n, -, memo, after, done⟩ := h.bind_error
  · obtain ⟨e, mem, failed⟩ := option_mapM_error offset.of_ofResult
    exact faulty_natural (.offset mem) failed
  · cases done

/-! ## What a text is refused for -/

/-- A text may be refused with an error, as a bare condition or as a query. -/
def RefusedAs (bare : Bool) (p : Persister) (text : String) (e : QueryError) : Prop :=
  if bare then (condition p text).Answers (.error e) else (query p text).Answers (.error e)

theorem refusedAs_of_perform {α : Type} {shown : Condition → α} {text : String} {e : QueryError}
    (h : ((condition p text).perform {}).1.map shown = .error e) : RefusedAs true p text e := by
  refine ⟨{}, ((condition p text).perform {}).2, Prod.ext ?_ rfl⟩
  cases result : ((condition p text).perform {}).1 with
  | error e' =>
      rw [result] at h
      exact congrArg Except.error (Except.error.inj h)
  | ok c =>
      rw [result] at h
      cases h

/-- A text that can be read is refused for its syntax as a statement, for the clauses behind a bare
condition, or for a fault. -/
theorem RefusedAs.syntax_cases {bare : Bool} {text : String}
    (written : Unicode.allBlank text = false)
    (refused : RefusedAs bare p text (.syntaxError position what)) :
    statement text.toList = .error (.syntaxError position what) ∨
      ∃ s, statement text.toList = .ok s ∧
        (bare = true ∧ (s.tail.order.isSome || s.tail.limit.isSome || s.tail.offset.isSome) ∧
            position = keywordPosition pagingKeywords text.toList ∧ what = "end of condition" ∨
          Faulty text.toList s.Asks position what) := by
  rw [RefusedAs, condition_of_written written, query_of_written written] at refused
  cases bare with
  | true =>
      obtain first | ⟨s, first, refused⟩ := Lookup.Answers.bind_error refused
      · exact .inl first.of_ofResult
      refine .inr ⟨s, first.of_ofResult, ?_⟩
      split at refused
      · next paging =>
          cases refused.of_ofResult
          exact .inl ⟨rfl, paging, rfl, rfl⟩
      · exact .inr (faulty_narrow refused)
  | false =>
      obtain first | ⟨s, first, refused⟩ := Lookup.Answers.bind_error refused
      · exact .inl first.of_ofResult
      · exact .inr ⟨s, first.of_ofResult, .inr (faulty_narrowQuery refused)⟩

end QueryText

end EntityQuery
