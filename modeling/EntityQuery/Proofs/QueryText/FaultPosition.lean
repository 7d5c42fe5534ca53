import EntityQuery.Proofs.QueryText.TrailingClause
import EntityQuery.Proofs.Reading.ExprPlace

/-!
# Where faults of query text are reported

The reported position of a fault is that of the part that does not answer, or of the operator of an
operation that compares nothing, where the part or the operator is placed. All parts are read from
tokens of the text, so it can be said when this is where they start.
-/

namespace EntityQuery

open ConditionText QueryText

/-! ## Where parts are read -/

namespace ConditionText

theorem Expr.mem_parts_of_target? {e c : Expr} (target : e.target? = some c) : c ∈ e.parts := by
  cases e with
  | binary left op right =>
      obtain ⟨op', -, rfl⟩ := Option.map_eq_some_iff.1 target
      exact List.mem_cons_self
  | like _ _ left _ _ =>
      cases target
      exact List.mem_cons_self
  | inList left _ _ =>
      cases target
      exact List.mem_cons_self
  | isNull left _ =>
      cases target
      exact List.mem_cons_self
  | _ => cases target

theorem Expr.mem_parts_of_operands {e c : Expr} (operand : c ∈ e.operands) : c ∈ e.parts := by
  cases e with
  | binary left op right =>
      rw [operands] at operand
      split at operand
      · exact List.mem_cons_of_mem _ operand
      · cases operand
  | like _ _ _ _ _ => exact List.mem_cons_of_mem _ operand
  | inList _ _ _ => exact List.mem_cons_of_mem _ operand
  | _ => cases operand

namespace GrownInside

variable {e c : Expr} {ls rest : List Lexeme}

theorem part (h : GrownInside e ls rest) (mem : c ∈ e.parts) : GrownInside c ls rest := by
  obtain ⟨start, later, grown, starts, ends⟩ := h
  exact (grown.part mem).mono starts ends

theorem tests (h : GrownInside e ls rest) (mem : c ∈ e.tests) : GrownInside c ls rest := by
  induction e using Expr.joined_induction with
  | connective left op right connects ihl ihr =>
      rw [Expr.tests_connective connects, List.mem_append] at mem
      obtain mem | mem := mem
      · exact ihl (h.part (by simp [Expr.parts])) mem
      · exact ihr (h.part (by simp [Expr.parts])) mem
  | enclosed inner ih =>
      rw [Expr.tests] at mem
      exact ih (h.part (by simp [Expr.parts])) mem
  | single e alone =>
      rw [Expr.tests_single alone, List.mem_singleton] at mem
      rwa [mem]

end GrownInside

/-- What is asked something is read from tokens of the statement. -/
theorem grownInside_of_asks {s : Statement} {ls left : List Lexeme} {d : Demand} {e : Expr}
    (read : Parse.statement ls = .ok (s, left)) (asks : s.Asks d e) : GrownInside e ls left := by
  obtain ⟨condition, t₁, readCondition, read⟩ := Parse.bind_eq_ok.1 read
  obtain ⟨select, t₂, readSelect, read⟩ := Parse.bind_eq_ok.1 read
  rw [Parse.bind_of_ok (Parse.get_apply t₂)] at read
  obtain ⟨⟨whole, combined⟩, t₃, readWhole, read⟩ := Parse.bind_eq_ok.1 read
  obtain ⟨tail, t₄, readTail, done⟩ := Parse.bind_eq_ok.1 read
  cases done
  have passed : t₃ <:+ t₁ := (Passes.suffix readWhole).trans (Passes.suffix readSelect)
  obtain ⟨keys, limit, offset⟩ := Parse.inside_of_queryTail readTail
  have behind {e : Expr} (inside : Inside (level (nestingBudget - 2)) e t₃ left) :
      GrownInside e ls left :=
    (GrownInside.of_inside inside).mono (passed.trans (Passes.suffix readCondition)) List.suffix_rfl
  cases asks with
  | key mem => exact behind (keys _ mem)
  | limit mem => exact behind (limit _ mem)
  | offset mem => exact behind (offset _ mem)
  | test mem asks =>
      have whole : GrownInside condition ls left :=
        (GrownInside.of_inside (inside_of_read readCondition)).mono List.suffix_rfl
          ((Passes.suffix readTail).trans passed)
      have test := whole.tests mem
      cases asks with
      | comparison => exact test
      | operator => exact test
      | field target => exact test.part (Expr.mem_parts_of_target? target)
      | literal operand => exact test.part (Expr.mem_parts_of_operands operand)
      | finite operand => exact test.part (Expr.mem_parts_of_operands operand)

end ConditionText

namespace Demand

/-- The token that an expression, or the operator of an operation, starts with among the tokens of a
text. -/
def StartsWith (ls : List Lexeme) : Demand → Expr → Lexeme → Prop
  | operator, .binary left op _, x =>
    ∃ start later, Grown start left (x :: later) ∧ x.token.operates op ∧ start <:+ ls
  | _, e, x => ∃ more rest, Grown (x :: more) e rest ∧ x :: more <:+ ls

/-- Whether an expression, or the operator of an operation, is placed behind some characters. -/
def IsPlacedAt (text : List Char) : Demand → Expr → List Char → Prop
  | operator, .binary left _ _ => left.OperatorIsPlacedAt text
  | _, e => e.IsPlacedAt text

variable {d : Demand} {e : Expr} {ls rest : List Lexeme}

/-- What does not answer starts with a token, and so does its operator. -/
theorem exists_startsWith (failed : d.FailedBy e) (inside : GrownInside e ls rest) :
    ∃ x ∈ ls, d.StartsWith ls e x := by
  obtain ⟨start, later, grown, starts, -⟩ := inside
  have whole : ∃ x ∈ ls, ∃ more rest, Grown (x :: more) e rest ∧ x :: more <:+ ls := by
    obtain ⟨x, ts, rfl, -⟩ := grown.tokens
    exact ⟨x, starts.subset List.mem_cons_self, _, _, grown, starts⟩
  cases d with
  | operator =>
      cases e with
      | binary left op right =>
          obtain ⟨x, more, front, operates, -⟩ := grown.operator
          exact ⟨x, starts.subset (front.suffix.subset List.mem_cons_self), start, more, front,
            operates, starts⟩
      | _ => exact failed.elim
  | _ => exact whole

/-- The reported position is that of a token where the expression, or the operator, starts if and
only if it is placed there. -/
theorem position_eq_iff {text front own back : List Char} {x : Lexeme} (failed : d.FailedBy e)
    (laid : Laid text [] ls) (starts : d.StartsWith ls e x)
    (stands : Stands text x front own back) :
    d.position text e = byteLength front ↔ d.IsPlacedAt text e front := by
  have whole (starts : ∃ more rest, Grown (x :: more) e rest ∧ x :: more <:+ ls) :
      e.position text = byteLength front ↔ e.IsPlacedAt text front :=
    let ⟨_, _, grown, within⟩ := starts
    grown.position_eq_iff laid within stands
  cases d with
  | operator =>
      cases e with
      | binary left op right =>
          obtain ⟨start, later, grown, -, within⟩ := starts
          exact grown.operatorPosition_eq_iff laid within stands
      | _ => exact failed.elim
  | _ => exact whole starts

end Demand

namespace QueryText

variable {p : Persister} {position : Nat}

/-- What a text that can be read is refused for before it is narrowed is nothing that is asked of a
part. -/
theorem not_demand_of_statement {text : String} {s : Statement} {further : Nat} {d : Demand}
    (read : ConditionText.read text = .ok (s, further)) :
    statement text.toList ≠ .error (.syntaxError position d.expected) := by
  rw [statement_of_read read]
  intro refused
  split at refused
  · next what surplus =>
      cases what <;> cases d <;> simp [refusal, Surplus.expected, Demand.expected] at refused
  · split at refused
    · cases d <;> simp [refusal, Demand.expected] at refused
    · cases refused

theorem eq_of_statement {text : String} {s s' : Statement} {further : Nat}
    (read : ConditionText.read text = .ok (s, further))
    (accepted : statement text.toList = .ok s') : s' = s := by
  rw [statement_of_read read] at accepted
  split at accepted
  · cases accepted
  · split at accepted
    · cases accepted
    · exact (Except.ok.inj accepted).symm

/-- A text that can be read is refused for what is asked of its parts only for one that does not
answer. -/
theorem faulty_of_refusedAs {bare : Bool} {text : String} {s : Statement} {further : Nat}
    {d : Demand} (read : ConditionText.read text = .ok (s, further))
    (refused : RefusedAs bare p text (.syntaxError position d.expected)) :
    Faulty text.toList s.Asks position d.expected := by
  obtain early | ⟨s', accepted, paging | fault⟩ := refused.syntax_cases (written_of_read read)
  · exact absurd early (not_demand_of_statement read)
  · obtain ⟨-, -, -, said⟩ := paging
    cases d <;> simp [Demand.expected] at said
  · obtain rfl := eq_of_statement read accepted
    exact fault

/-- The position of a fault: a text that can be read, but is refused for what is asked of its parts,
has a part that does not answer, and the position is told by this part. The part, or its operator,
starts with a token of the text. Whichever token this is, if the same is written in several places,
the position is that of the token if and only if the part, or its operator, is placed there. -/
theorem position_of_fault {bare : Bool} {text : String} {s : Statement} {further : Nat} {d : Demand}
    (read : ConditionText.read text = .ok (s, further))
    (refused : RefusedAs bare p text (.syntaxError position d.expected)) :
    ∃ ls d' e, lex textStart text.toList = .ok ls ∧ s.Asks d' e ∧ d'.FailedBy e ∧
      d'.expected = d.expected ∧ position = d'.position text.toList e ∧
      (∃ x front own back, d'.StartsWith ls e x ∧ Stands text.toList x front own back) ∧
      ∀ x front own back, d'.StartsWith ls e x → Stands text.toList x front own back →
        (position = byteLength front ↔ d'.IsPlacedAt text.toList e front) := by
  obtain ⟨d', e, asks, failed, said, rfl⟩ := faulty_of_refusedAs read refused
  obtain ⟨ls, left, rest, lexed, readFirst, -⟩ := statements_of_read read
  have laid := laid_of_lex lexed
  obtain ⟨x, mem, starts⟩ := Demand.exists_startsWith failed (grownInside_of_asks readFirst asks)
  obtain ⟨front, own, back, stands, -⟩ := laid.stands mem
  exact ⟨ls, d', e, lexed, asks, failed, said.symm, rfl, ⟨x, front, own, back, starts, stands⟩,
    fun x front own back => Demand.position_eq_iff failed laid⟩

theorem position_of_literal :
    let text := "format > 1 AND format = size"
    ∃ s ls d e, ConditionText.read text = .ok (s, 0) ∧
      RefusedAs true files text (.syntaxError 24 "a literal") ∧
      lex textStart text.toList = .ok ls ∧ s.Asks d e ∧ d.FailedBy e ∧ d.expected = "a literal" ∧
      24 = d.position text.toList e ∧
      (∃ x front own back, d.StartsWith ls e x ∧ Stands text.toList x front own back) ∧
      ∀ x front own back, d.StartsWith ls e x → Stands text.toList x front own back →
        (24 = byteLength front ↔ d.IsPlacedAt text.toList e front) := by
  intro text
  have told : (ConditionText.read text).toOption.map Prod.snd = some 0 := by decide +kernel
  have refused : RefusedAs true files text (.syntaxError 24 "a literal") := by
    have outcome : ((condition files text).perform {}).1.map Condition.display =
        .error (.syntaxError 24 "a literal") := by decide +kernel
    exact refusedAs_of_perform outcome
  cases read : ConditionText.read text with
  | error failure =>
      rw [read] at told
      cases told
  | ok r =>
      obtain ⟨s, n⟩ := r
      rw [read] at told
      obtain rfl : n = 0 := Option.some.inj told
      obtain ⟨ls, d, e, lexed, asks, failed, said, same, starts, right⟩ :=
        position_of_fault (d := .literal) read refused
      exact ⟨s, ls, d, e, rfl, refused, lexed, asks, failed, said, same, starts, right⟩

/-- The sum that is no literal starts behind thirty bytes. What is reported is the place of the same
characters inside a quotation, where no token starts. -/
theorem position_of_quoted_sum :
    let text := "format = '5 + 5' AND format = 5 + 5"
    ((lex textStart text.toList).toOption.getD []).map
        (fun x => (x.token, x.offset text.toList)) =
      [(.bareWord "format", 0), (.symbol "=", 7), (.quotation .plain "5 + 5", 9),
        (.bareWord "AND", 17), (.bareWord "format", 21), (.symbol "=", 28),
        (.number "5" false, 30), (.symbol "+", 32), (.number "5" false, 34)] ∧
      ((condition files text).perform {}).1.map Condition.display =
        .error (.syntaxError 10 "a literal") := by
  decide +kernel

end QueryText

end EntityQuery
