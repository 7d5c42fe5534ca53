import EntityQuery.ConditionText.FurtherStatement
import EntityQuery.ConditionText.Lexer

/-!
# Statements

Query text is read as what follows `SELECT * FROM t WHERE` in a statement. Reading takes any such
text of the SQL grammar; `Statement` keeps what is needed to decide which texts are queries of
entities.
-/

namespace EntityQuery.ConditionText

/-- What query text says. -/
structure Statement where
  condition : Expr
  select : SelectTail
  /-- Whether the selection is combined with further queries. -/
  combined : Bool
  tail : QueryTail

/-- How deeply the parts of a statement may be nested: the statement, its query and each expression
that is being read count. -/
def nestingBudget : Nat := 50

/-- What stands in front of query text in its statement. -/
def statementStart : String := "SELECT * FROM t WHERE "

namespace Parse

/-- Query text up to the end of its statement. -/
def statement : Parse Statement := do
  let inner := level (nestingBudget - 2)
  let condition ← inner.expr
  let select ← selectTail inner
  let (_, combined) ← combinations (queryBody inner 3) 0 (← get).length ""
  let tail ← queryTail inner
  pure { condition, select, combined, tail }

/-- Query text with the number of the statements behind it. -/
def statements : Parse (Statement × Nat) := do
  let first ← statement
  let further ← statementsWithin (level nestingBudget) (← get).length true
  pure (first, further)

end Parse

/-- Where query text starts in its statement. -/
def textStart : Location := Location.start.advanceAll statementStart.toList

/-- What a text says, and the number of statements behind it. -/
def read (text : String) : Except Failure (Statement × Nat) := do
  let lexemes ← lex textStart text.toList
  (·.1) <$> Parse.statements lexemes

end EntityQuery.ConditionText
