import EntityQuery.ConditionText.Alteration
import EntityQuery.ConditionText.Creation
import EntityQuery.ConditionText.Query
import EntityQuery.ConditionText.Removal
import EntityQuery.ConditionText.Routine
import EntityQuery.ConditionText.Session

/-!
# Statements behind query text

Query text is one statement. Further statements behind it are refused, but a text that is no
statement at all is refused for that reason first; so this grammar only tells where a statement
ends. The first word of a statement tells its kind.

`level n` is the grammar for what may be nested `n` times more.
-/

namespace EntityQuery.ConditionText

namespace Parse

/-- The rest of a statement that starts with a word, if the word starts one. -/
def statementRest (inner : Level) : String → Option (Parse Unit)
  | "KILL" => some killing
  | "FLUSH" => some (expected "Unsupported statement FLUSH")
  | "ANALYZE" => some (analysis inner)
  | "TRUNCATE" => some (truncation inner)
  | "ATTACH" => some (attachment inner)
  | "MSCK" => some repair
  | "CREATE" => some (creation inner)
  | "CACHE" => some (caching inner)
  | "DROP" => some (removal inner)
  | "DISCARD" => some discarding
  | "DECLARE" => some (cursorDeclaration inner)
  | "FETCH" => some cursorFetch
  | "DELETE" => some (deletion inner)
  | "INSERT" => some (discard (insertion inner))
  | "REPLACE" => some (expected "Unsupported statement REPLACE")
  | "UNCACHE" => some uncaching
  | "UPDATE" => some (discard (update inner))
  | "ALTER" => some (alteration inner)
  | "CALL" => some (procedureCall inner)
  | "COPY" => some (copy inner)
  | "CLOSE" => some cursorClose
  | "SET" => some (setting inner)
  | "SHOW" => some (showing inner)
  | "USE" => some (discard objectName)
  | "GRANT" => some grant
  | "REVOKE" => some revoke
  | "START" => some (expectKeyword "TRANSACTION" *> transactionModes)
  | "BEGIN" => some (discard (oneOf? ["TRANSACTION", "WORK"]) *> transactionModes)
  | "END" | "COMMIT" => some transactionChain
  | "SAVEPOINT" => some (discard ident)
  | "RELEASE" => some (discard (keyword "SAVEPOINT") *> discard ident)
  | "ROLLBACK" => some rollback
  | "ASSERT" => some (discard inner.expr *> discard (afterKeyword? "AS" inner.expr))
  | "DEALLOCATE" => some (discard (keyword "PREPARE") *> discard ident)
  | "EXECUTE" | "EXEC" => some (execution inner)
  | "PREPARE" => some (preparation inner)
  | "MERGE" => some (merge inner)
  | "LISTEN" => some (discard ident)
  | "UNLISTEN" => some unlisten
  | "NOTIFY" => some notify
  | "PRAGMA" => some pragma
  | "UNLOAD" => some (unloading inner)
  | "LOAD" => some (discard ident)
  | "COMMENT" => some remark
  | _ => none

/-- The words that start an explanation. -/
def explanationWords : List String := ["EXPLAIN", "DESCRIBE", "DESC"]

/-- Whether a statement starts with a token. -/
def startsStatement (inner : Level) : Token → Bool
  | .word _ false word => explanationWords.contains word || (statementRest inner word).isSome
  | _ => false

/-- A statement of any kind. -/
def anyStatement (inner : Level) : Parse StatementKind := do
  if ← nextIs fun t => t.isOneOf ["SELECT", "WITH", "VALUES"] || t.isSymbol "(" then do
    discard inner.query
    pure .plain
  else
    match ← take? (startsStatement inner) with
    | some ⟨.word _ _ word, _⟩ =>
      if explanationWords.contains word then do
        explanation inner (word == "EXPLAIN")
        pure .explanation
      else do
        (statementRest inner word).getD (pure ())
        pure .plain
    | _ => expected "an SQL statement"

end Parse

/-- The grammar for what may be nested some number of times more. -/
def level : Nat → Level
  | 0 => ⟨fun _ => Parse.fail .tooDeep, Parse.fail .tooDeep, Parse.fail .tooDeep⟩
  | n + 1 => ⟨Parse.expression (level n), Parse.query (level n), Parse.anyStatement (level n)⟩

end EntityQuery.ConditionText
