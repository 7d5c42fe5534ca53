import EntityQuery.Proofs.QueryText.Narrowing
import EntityQuery.Proofs.QueryText.RoundTrip
import EntityQuery.Proofs.Reading.Bare

/-!
# Accepted query text

Query text is accepted if its plain form is in the documented grammar and the persister knows what
it is about. The plain form drops four kinds of words without notice: those of a pattern test
besides its pattern, those of a sort key on nulls, those that ask a bare condition for all rows, and
everything from a closing keyword right behind the statement on. An accepted text is documented
exactly if it has none of them; every other construct is refused.
-/

namespace EntityQuery

namespace QueryText

open ConditionText

/-- The condition at the start of a text, and the tokens behind it. -/
def readCondition (text : String) : Except Failure (Expr × List Lexeme) := do
  let lexemes ← lex textStart text.toList
  (level (nestingBudget - 2)).expr lexemes

/-- The statement of a text with the number of the statements behind it, and the tokens that reading
leaves. -/
def readStatement (text : String) : Except Failure ((Statement × Nat) × List Lexeme) := do
  let lexemes ← lex textStart text.toList
  Parse.statements lexemes

/-- Whether a text is a bare condition of the documented grammar. -/
def isDocumentedCondition (text : String) : Bool :=
  Unicode.allBlank text ||
    match readCondition text with
    | .ok (e, rest) => e.isDocumented && rest.all (·.token.isSymbol ";")
    | .error _ => false

/-- Whether a text is a query of the documented grammar. -/
def isDocumentedQuery (text : String) : Bool :=
  Unicode.allBlank text ||
    match readStatement text with
    | .ok ((s, further), left) => s.isDocumented && further == 0 && left.isEmpty
    | .error _ => false

/-- Whether a text has words that a bare condition drops: in a pattern test, or behind the condition,
where they ask for all rows or follow a closing keyword. -/
def dropsFromCondition (text : String) : Bool :=
  match readCondition text with
  | .ok (e, rest) => e.tests.any Expr.saysMore || rest.head?.any (·.token.isOneOf passedWords)
  | .error _ => false

/-- Whether a text has words that a query drops: in a pattern test or a sort key, or from a closing
keyword on. -/
def dropsFromQuery (text : String) : Bool :=
  match readStatement text with
  | .ok ((s, _), left) => s.saysMore || !left.isEmpty
  | .error _ => false

/-! ## Blank texts -/

theorem lex_of_allBlank {text : String} (blank : Unicode.allBlank text) :
    lex textStart text.toList = .ok [] := lex_of_blank textStart blank

theorem readCondition_of_blank {text : String} (blank : Unicode.allBlank text) :
    ∃ failure, readCondition text = .error failure := by
  rw [readCondition, lex_of_allBlank blank]
  exact ⟨_, rfl⟩

theorem readStatement_of_blank {text : String} (blank : Unicode.allBlank text) :
    ∃ failure, readStatement text = .error failure := by
  rw [readStatement, lex_of_allBlank blank]
  exact ⟨_, rfl⟩

/-! ## Statements -/

theorem read_eq (text : String) : ConditionText.read text = Prod.fst <$> readStatement text := by
  rw [ConditionText.read, readStatement]
  cases lex textStart text.toList <;> rfl

/-- A text that can be read is not blank. -/
theorem written_of_read {text : String} {s : Statement} {further : Nat}
    (read : ConditionText.read text = .ok (s, further)) : Unicode.allBlank text = false := by
  by_contra blank
  obtain ⟨failure, refused⟩ := readStatement_of_blank (Bool.eq_true_of_not_eq_false blank)
  rw [read_eq, refused] at read
  cases read

theorem read_eq_ok {text : String} {s : Statement} {n : Nat} :
    ConditionText.read text = .ok (s, n) ↔ ∃ left, readStatement text = .ok ((s, n), left) := by
  rw [read_eq]
  constructor
  · intro h
    obtain ⟨⟨whole, left⟩, read, rfl⟩ := map_eq_ok.1 h
    exact ⟨left, read⟩
  · rintro ⟨left, read⟩
    exact map_eq_ok.2 ⟨_, read, rfl⟩

/-- What reading leaves starts with the closing keyword. -/
theorem left_of_readStatement {text : String} {s : Statement} {left : List Lexeme}
    (read : readStatement text = .ok ((s, 0), left)) :
    left = [] ∨ ∃ l ∈ left.head?, l.token.isKeyword "END" := by
  obtain ⟨ls, -, statements⟩ := bind_eq_ok.1 read
  exact Parse.left_of_statements statements

/-- A statement is accepted exactly if it is single and has no clauses but those of queries. -/
theorem statement_eq_ok {text : String} {s : Statement} :
    statement text.toList = .ok s ↔
      (∃ left, readStatement text = .ok ((s, 0), left)) ∧ s.isSimple := by
  rw [statement, String.ofList_toList, ← read_eq_ok]
  cases result : ConditionText.read text with
  | error failure => simp
  | ok whole =>
      obtain ⟨t, further⟩ := whole
      constructor
      · intro accepted
        by_cases more : further ≠ 0
        · simp [more, refusal] at accepted
        by_cases combined : t.combined
        · simp [more, combined, refusal] at accepted
        by_cases grouped : t.select.grouped
        · simp [more, combined, grouped, refusal] at accepted
        by_cases clauses : t.select.further || t.tail.further
        · simp [more, combined, grouped, clauses, refusal] at accepted
        have same : t = s := by simpa [more, combined, grouped, clauses] using accepted
        subst same
        obtain rfl : further = 0 := Decidable.not_not.1 more
        exact ⟨rfl, by simp [Statement.isSimple, combined, grouped, clauses]⟩
      · rintro ⟨⟨⟩, simple⟩
        simp only [Statement.isSimple, Bool.and_eq_true, Bool.not_eq_true'] at simple
        obtain ⟨⟨combined, grouped⟩, clauses⟩ := simple
        simp [combined, grouped, clauses]

theorem isSyntax_of_statement {text : String} {e : QueryError}
    (h : statement text.toList = .error e) : e.isSyntax := by
  rw [statement] at h
  split at h
  · next failure _ =>
      cases h
      cases failure <;> rfl
  · repeat' split at h
    all_goals cases h
    all_goals rfl

/-- A statement without clauses is accepted exactly if nothing but ignored tokens stands behind its
condition. -/
theorem statement_bare_iff {text : String} {s : Statement} :
    (statement text.toList = .ok s ∧
        (s.tail.order.isSome || s.tail.limit.isSome || s.tail.offset.isSome) = false) ↔
      ∃ rest, readCondition text = .ok (s.condition, rest) ∧ Ignored rest ∧
        s = .bare s.condition := by
  have bare_iff : s.IsBare ↔ s.isSimple ∧
      (s.tail.order.isSome || s.tail.limit.isSome || s.tail.offset.isSome) = false := by
    simp only [Statement.isSimple, Bool.and_eq_true, Bool.not_eq_true', Bool.or_eq_false_iff,
      Option.isSome_eq_false_iff, Option.isNone_iff_eq_none]
    constructor
    · rintro ⟨ungrouped, selected, single, unordered, unlimited, complete, further⟩
      exact ⟨⟨⟨single, ungrouped⟩, selected, further⟩, ⟨unordered, unlimited⟩, complete⟩
    · rintro ⟨⟨⟨single, ungrouped⟩, selected, further⟩, ⟨unordered, unlimited⟩, complete⟩
      exact ⟨ungrouped, selected, single, unordered, unlimited, complete, further⟩
  rw [statement_eq_ok, and_assoc, ← bare_iff]
  rw [readStatement, readCondition]
  cases lexed : lex textStart text.toList with
  | error failure =>
      constructor
      · rintro ⟨⟨left, read⟩, -⟩
        cases read
      · rintro ⟨rest, read, -⟩
        cases read
  | ok ls => exact Parse.statements_eq_bare

section

variable {p : Persister} {text : String} {memo after : Memo}

theorem condition_of_written (written : Unicode.allBlank text = false) :
    condition p text = (do
      let s ← Lookup.ofResult (statement text.toList)
      if s.tail.order.isSome || s.tail.limit.isSome || s.tail.offset.isSome then
        Lookup.ofResult (refusal (keywordPosition pagingKeywords text.toList) "end of condition")
      else narrow p text.toList s.condition) := by
  rw [condition, written]
  rfl

/-- Which texts are read as conditions, and as which ones. -/
theorem condition_perform_ok (written : Unicode.allBlank text = false) {c : Condition} :
    (condition p text).perform memo = (.ok c, after) ↔
      ∃ e rest, readCondition text = .ok (e, rest) ∧ Ignored rest ∧
        (narrow p text.toList e).perform memo = (.ok c, after) := by
  rw [condition_of_written written, Lookup.perform_ofResult_bind_ok]
  constructor
  · rintro ⟨s, accepted, done⟩
    split at done
    · cases done
    · next bare =>
        obtain ⟨rest, read, ignored, -⟩ :=
          statement_bare_iff.1 ⟨accepted, Bool.eq_false_iff.2 bare⟩
        exact ⟨s.condition, rest, read, ignored, done⟩
  · rintro ⟨e, rest, read, ignored, done⟩
    obtain ⟨accepted, -⟩ := (statement_bare_iff (s := .bare e)).2 ⟨rest, read, ignored, rfl⟩
    exact ⟨.bare e, accepted, done⟩

/-- A condition is refused for its syntax, or a documented test of it is refused. -/
theorem condition_failure {e : QueryError}
    (failed : (condition p text).perform memo = (.error e, after)) :
    e.isSyntax ∨ ∃ c rest, readCondition text = .ok (c, rest) ∧ Ignored rest ∧
      ∃ t ∈ c.tests, t.plain.isTest ∧ (narrow p text.toList t).Answers (.error e) := by
  cases written : Unicode.allBlank text with
  | true =>
      rw [condition, written] at failed
      cases failed
  | false =>
      rw [condition_of_written written] at failed
      obtain refused | ⟨s, accepted, failed⟩ := Lookup.perform_ofResult_bind_error failed
      · exact .inl (isSyntax_of_statement refused)
      · split at failed
        · cases failed
          exact .inl rfl
        · next bare =>
            obtain ⟨rest, read, ignored, -⟩ :=
              statement_bare_iff.1 ⟨accepted, Bool.eq_false_iff.2 bare⟩
            obtain syntactic | refused := narrow_failure ⟨memo, after, failed⟩
            · exact .inl syntactic
            · exact .inr ⟨s.condition, rest, read, ignored, refused⟩

theorem query_of_written (written : Unicode.allBlank text = false) :
    query p text =
      Lookup.ofResult (statement text.toList) >>= narrowQuery p text.toList := by
  rw [query, written]
  rfl

/-- Which texts are read as queries, and as which ones. -/
theorem query_perform_ok (written : Unicode.allBlank text = false) {q : Query} :
    (query p text).perform memo = (.ok q, after) ↔
      ∃ s left, readStatement text = .ok ((s, 0), left) ∧ s.isSimple ∧
        (narrowQuery p text.toList s).perform memo = (.ok q, after) := by
  rw [query_of_written written, Lookup.perform_ofResult_bind_ok]
  simp only [statement_eq_ok]
  constructor
  · rintro ⟨s, ⟨⟨left, read⟩, simple⟩, done⟩
    exact ⟨s, left, read, simple, done⟩
  · rintro ⟨s, left, read, simple, done⟩
    exact ⟨s, ⟨⟨left, read⟩, simple⟩, done⟩

/-- A query is refused for its syntax, or a documented test or sort key of it is refused. -/
theorem query_failure {e : QueryError} (failed : (query p text).perform memo = (.error e, after)) :
    e.isSyntax ∨ ∃ s left, readStatement text = .ok ((s, 0), left) ∧ s.isSimple ∧
      ((∃ t ∈ s.condition.tests, t.plain.isTest ∧ (narrow p text.toList t).Answers (.error e)) ∨
        ∃ t ∈ s.keys, t.plain.isDocumented ∧
          (sortKey p text.toList t).Answers (.error e)) := by
  cases written : Unicode.allBlank text with
  | true =>
      rw [query, written] at failed
      cases failed
  | false =>
      rw [query_of_written written] at failed
      obtain refused | ⟨s, accepted, failed⟩ := Lookup.perform_ofResult_bind_error failed
      · exact .inl (isSyntax_of_statement refused)
      · obtain ⟨⟨left, read⟩, simple⟩ := statement_eq_ok.1 accepted
        obtain syntactic | refused := narrowQuery_failure ⟨memo, after, failed⟩
        · exact .inl syntactic
        · exact .inr ⟨s, left, read, simple, refused⟩

end

/-! ## The grammar of accepted texts -/

section

variable {p : Persister} {text : String} {memo after : Memo}

theorem not_blank_of_readCondition {e : Expr} {rest : List Lexeme}
    (read : readCondition text = .ok (e, rest)) : Unicode.allBlank text = false := by
  rw [← Bool.not_eq_true]
  intro blank
  obtain ⟨failure, none⟩ := readCondition_of_blank blank
  rw [read] at none
  cases none

theorem not_blank_of_readStatement {s : Statement} {n : Nat} {left : List Lexeme}
    (read : readStatement text = .ok ((s, n), left)) : Unicode.allBlank text = false := by
  rw [← Bool.not_eq_true]
  intro blank
  obtain ⟨failure, none⟩ := readStatement_of_blank blank
  rw [read] at none
  cases none

/-- Texts are accepted as conditions exactly if their plain forms are documented and accepted. -/
theorem condition_perform_iff {c : Condition} :
    (condition p text).perform memo = (.ok c, after) ↔
      (Unicode.allBlank text ∧ c = .always ∧ after = memo) ∨
        ∃ e rest, readCondition text = .ok (e, rest) ∧ Ignored rest ∧ e.plain.isDocumented ∧
          (narrow p text.toList e.plain).perform memo = (.ok c, after) := by
  cases written : Unicode.allBlank text with
  | true =>
      rw [condition, written]
      constructor
      · intro done
        cases done
        exact .inl ⟨rfl, rfl, rfl⟩
      · rintro (⟨-, rfl, rfl⟩ | ⟨e, rest, read, -⟩)
        · rfl
        · rw [not_blank_of_readCondition read] at written
          cases written
  | false =>
      rw [condition_perform_ok written]
      constructor
      · rintro ⟨e, rest, read, ignored, done⟩
        have plain := isDocumented_of_narrow ⟨memo, after, done⟩
        rw [← narrow_plain] at done
        exact .inr ⟨e, rest, read, ignored, plain, done⟩
      · rintro (⟨⟨⟩, -⟩ | ⟨e, rest, read, ignored, -, done⟩)
        rw [narrow_plain] at done
        exact ⟨e, rest, read, ignored, done⟩

/-- Texts are accepted as queries exactly if their plain forms are documented and accepted. -/
theorem query_perform_iff {q : Query} :
    (query p text).perform memo = (.ok q, after) ↔
      (Unicode.allBlank text ∧ q = .ofParts .always [] none none ∧ after = memo) ∨
        ∃ s left, readStatement text = .ok ((s, 0), left) ∧
          (left = [] ∨ ∃ l ∈ left.head?, l.token.isKeyword "END") ∧ s.plain.isDocumented ∧
          (narrowQuery p text.toList s.plain).perform memo = (.ok q, after) := by
  cases written : Unicode.allBlank text with
  | true =>
      rw [query, written]
      constructor
      · intro done
        cases done
        exact .inl ⟨rfl, rfl, rfl⟩
      · rintro (⟨-, rfl, rfl⟩ | ⟨s, left, read, -⟩)
        · rfl
        · rw [not_blank_of_readStatement read] at written
          cases written
  | false =>
      rw [query_perform_ok written]
      constructor
      · rintro ⟨s, left, read, simple, done⟩
        have plain := isDocumented_of_narrowQuery simple ⟨memo, after, done⟩
        rw [← narrowQuery_plain] at done
        exact .inr ⟨s, left, read, left_of_readStatement read, plain, done⟩
      · rintro (⟨⟨⟩, -⟩ | ⟨s, left, read, -, plain, done⟩)
        simp only [Statement.isDocumented, Bool.and_eq_true] at plain
        rw [narrowQuery_plain] at done
        exact ⟨s, left, read, plain.1.1.1.1, done⟩

end

/-- An accepted condition is documented exactly if it has no words that are dropped. -/
theorem isDocumentedCondition_of_accepted {p : Persister} {text : String} {memo after : Memo}
    {c : Condition} (accepted : (condition p text).perform memo = (.ok c, after)) :
    isDocumentedCondition text = !dropsFromCondition text := by
  rw [isDocumentedCondition, dropsFromCondition]
  obtain ⟨blank, -⟩ | ⟨e, rest, read, ignored, plain, -⟩ := condition_perform_iff.1 accepted
  · obtain ⟨failure, none⟩ := readCondition_of_blank blank
    rw [blank, none]
    rfl
  · rw [not_blank_of_readCondition read, read]
    simp only [Expr.isDocumented_eq e, plain, ignored.all_semicolons, Bool.true_and,
      Bool.false_or, Bool.not_or]

/-- An accepted query is documented exactly if it has no words that are dropped. -/
theorem isDocumentedQuery_of_accepted {p : Persister} {text : String} {memo after : Memo}
    {q : Query} (accepted : (query p text).perform memo = (.ok q, after)) :
    isDocumentedQuery text = !dropsFromQuery text := by
  rw [isDocumentedQuery, dropsFromQuery]
  obtain ⟨blank, -⟩ | ⟨s, left, read, -, plain, -⟩ := query_perform_iff.1 accepted
  · obtain ⟨failure, none⟩ := readStatement_of_blank blank
    rw [blank, none]
    rfl
  · rw [not_blank_of_readStatement read, read]
    simp only [Statement.isDocumented_eq s, plain, Bool.true_and, Bool.false_or, Bool.not_or,
      beq_self_eq_true, Bool.and_true, Bool.not_not]

/-- Accepted text is in the documented grammar up to the words that are dropped, and is documented
exactly if no word is; text that is not accepted has a syntax error, or the persister refuses a
documented part of it. -/
theorem accepted_documented (p : Persister) (text : String) (memo : Memo) :
    (∀ c after, (condition p text).perform memo = (.ok c, after) ↔
      (Unicode.allBlank text ∧ c = .always ∧ after = memo) ∨
        ∃ e rest, readCondition text = .ok (e, rest) ∧ Ignored rest ∧ e.plain.isDocumented ∧
          (narrow p text.toList e.plain).perform memo = (.ok c, after)) ∧
    (∀ q after, (query p text).perform memo = (.ok q, after) ↔
      (Unicode.allBlank text ∧ q = .ofParts .always [] none none ∧ after = memo) ∨
        ∃ s left, readStatement text = .ok ((s, 0), left) ∧
          (left = [] ∨ ∃ l ∈ left.head?, l.token.isKeyword "END") ∧ s.plain.isDocumented ∧
          (narrowQuery p text.toList s.plain).perform memo = (.ok q, after)) ∧
    ((∃ c after, (condition p text).perform memo = (.ok c, after)) →
      isDocumentedCondition text = !dropsFromCondition text) ∧
    ((∃ q after, (query p text).perform memo = (.ok q, after)) →
      isDocumentedQuery text = !dropsFromQuery text) ∧
    (∀ e after, (condition p text).perform memo = (.error e, after) →
      e.isSyntax ∨ ∃ c rest, readCondition text = .ok (c, rest) ∧ Ignored rest ∧
        ∃ t ∈ c.tests, t.plain.isTest ∧ (narrow p text.toList t).Answers (.error e)) ∧
    (∀ e after, (query p text).perform memo = (.error e, after) →
      e.isSyntax ∨ ∃ s left, readStatement text = .ok ((s, 0), left) ∧ s.isSimple ∧
        ((∃ t ∈ s.condition.tests, t.plain.isTest ∧
            (narrow p text.toList t).Answers (.error e)) ∨
          ∃ t ∈ s.keys, t.plain.isDocumented ∧
            (sortKey p text.toList t).Answers (.error e))) := by
  refine ⟨fun c after => condition_perform_iff, fun q after => query_perform_iff, ?_, ?_,
    fun e after => condition_failure, fun e after => query_failure⟩
  · rintro ⟨c, after, accepted⟩
    exact isDocumentedCondition_of_accepted accepted
  · rintro ⟨q, after, accepted⟩
    exact isDocumentedQuery_of_accepted accepted

example : isDocumentedQuery
    "name NOT LIKE 'a%' OR (id IN (1, 2) AND active = TRUE) ORDER BY name DESC OFFSET 3 LIMIT 5;" :=
  by decide +kernel

/-- The character that quotes the wildcards of a pattern is dropped, although the documented grammar
has no place for it. -/
theorem escape_dropped :
    ((condition users "name LIKE '100!%' ESCAPE '!'").perform {}).1.map Condition.display =
        .ok "name LIKE '100!%'" ∧
      isDocumentedCondition "name LIKE '100!%' ESCAPE '!'" = false :=
  ⟨by decide +kernel, by decide +kernel⟩

end QueryText

end EntityQuery
