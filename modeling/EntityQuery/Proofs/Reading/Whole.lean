import EntityQuery.Proofs.Reading.Bare
import EntityQuery.Proofs.Reading.Written
import EntityQuery.QueryText

/-!
# Reading whole texts

A written expression that nothing stands behind is read as a condition without clauses and without
further statements, if what it nests fits what a statement leaves of the budget. It is never blank.
-/

namespace EntityQuery.ConditionText

open Parse

variable {need floor : Nat} {text : String} {P : Expr → Prop}

/-- A blank starts no token. -/
theorem pieceAt_of_isBlank {c : Char} (h : Unicode.isBlank c) (rest : List Char) :
    pieceAt (c :: rest) = .ok (none, 1) := by
  have unmarked : c ∉ ['b', 'B', 'n', 'N', 'e', 'E', 'x', 'X', 'u', 'U'] :=
    not_mem_of_all h (by decide)
  rw [pieceAt_eq (markedQuotation?_eq_none unmarked) (not_mem_of_all h (by decide)), if_pos h]

theorem lex_of_blank (l : Location) {cs : List Char} (blank : cs.all Unicode.isBlank) :
    lex l cs = .ok [] := by
  induction cs generalizing l with
  | nil => rfl
  | cons c cs ih =>
      simp only [List.all_cons, Bool.and_eq_true] at blank
      have further := ih (l.advanceAll [c]) blank.2
      rw [lex_of_piece (pieceAt_of_isBlank blank.1 cs)]
      change Except.map _ (lex (l.advanceAll [c]) cs) = _
      rw [further]
      rfl

/-- The tokens of a whole text. -/
theorem Lexed.whole {l : Location} {cs : List Char} {ls : List Lexeme} (h : Lexed l cs ls []) :
    lex l cs = .ok ls := by
  rw [Lexed, List.append_nil, lex_nil] at h
  simpa [Except.map] using h

theorem Written.not_blank (h : Written need floor text P) : Unicode.allBlank text = false := by
  rw [← Bool.not_eq_true]
  intro blank
  obtain ⟨ls, e, lexed, reads, -⟩ := h textStart
  have tokens : lex textStart text.toList = .ok ls := (lexed [] (by rintro _ ⟨⟩)).whole
  obtain ⟨x, more, rfl, -⟩ := reads.opens
  rw [lex_of_blank textStart blank] at tokens
  cases tokens

/-- A written expression is read as a bare condition. -/
theorem Written.read (h : Written need floor text P) (some : 0 < floor)
    (shallow : need + 2 < nestingBudget) :
    ∃ e, P e ∧ ConditionText.read text = .ok (.bare e, 0) := by
  obtain ⟨ls, e, lexed, reads, holds⟩ := h textStart
  have tokens : lex textStart text.toList = .ok ls := (lexed [] (by rintro _ ⟨⟩)).whole
  have condition : (level (nestingBudget - 2)).expr ls = .ok (e, []) := by
    have ends : EndsExpr [] := by rintro _ ⟨⟩
    have read := reads.tighter (n := nestingBudget - 2) (by omega) some ends (Nat.le_refl _)
    rwa [List.append_nil] at read
  have ignored : Ignored [] := ⟨[], [], .none, .inl ⟨rfl, List.forall_mem_nil _⟩⟩
  obtain ⟨⟨left, statements⟩, -⟩ :=
    (statements_eq_bare (s := .bare e)).2 ⟨[], condition, ignored, rfl⟩
  refine ⟨e, holds, ?_⟩
  rw [ConditionText.read, tokens, Parse.ok_bind, statements]
  rfl

/-- So the condition of its text is what the expression is narrowed to. -/
theorem Written.condition_eq (h : Written need floor text P) (some : 0 < floor)
    (shallow : need + 2 < nestingBudget) :
    ∃ e, P e ∧ ∀ p, QueryText.condition p text = QueryText.narrow p text.toList e := by
  obtain ⟨e, holds, read⟩ := h.read some shallow
  have statement : QueryText.statement text.toList = .ok (.bare e) := by
    rw [QueryText.statement, String.ofList_toList, read]
    rfl
  refine ⟨e, holds, fun p => ?_⟩
  rw [QueryText.condition, h.not_blank, statement]
  rfl

end EntityQuery.ConditionText
