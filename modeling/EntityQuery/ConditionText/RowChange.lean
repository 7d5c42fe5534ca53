import EntityQuery.ConditionText.Phrase

/-!
# Statements that change rows

Rows are added, changed, removed, merged with other rows or copied from and to files. Additions and
changes may stand in the place of a query, so their place and their spelling are kept; of the other
statements only the end counts.
-/

namespace EntityQuery.ConditionText.Parse

/-- A column, or several ones in parentheses, with the value that it is given. -/
def assignment (inner : Level) : Parse Fragment := do
  let target ← if ← symbol "(" then do
      let names ← separated objectName
      expectSymbol ")"
      pure ("(" ++ Fragment.listed (names.map dottedFragment) ++ ")")
    else dottedFragment <$> objectName
  expectSymbol "="
  let value ← inner.expr
  pure (target ++ " = " ++ value.fragment)

/-- One or more columns with the values they are given. -/
def assignments (inner : Level) : Parse Fragment :=
  Fragment.listed <$> separated (assignment inner)

/-- What is done where a row is in the way of a change, as it is written. -/
def conflictClause : Parse String := do
  let answer (word : String) : Parse Bool := keywords ["OR", word]
  if ← answer "REPLACE" then pure " OR REPLACE"
  else if ← answer "ROLLBACK" then pure " OR ROLLBACK"
  else if ← answer "ABORT" then pure " OR ABORT"
  else if ← answer "FAIL" then pure " OR FAIL"
  else if ← answer "IGNORE" then pure " OR IGNORE"
  else if ← keyword "REPLACE" then pure " OR REPLACE"
  else pure ""

/-- The columns that are given back of each row. -/
def returningClause (inner : Level) : Parse Fragment := do
  let items ← afterKeyword? "RETURNING" (selectItems inner)
  pure (Fragment.clause " RETURNING " items)

/-- The constraint or the columns that a conflict is about. -/
def conflictTarget : Parse Fragment := do
  if ← keywords ["ON", "CONSTRAINT"] then do
    let name ← objectName
    pure (" ON CONSTRAINT " ++ dottedFragment name)
  else if ← nextIs (·.isSymbol "(") then do
    let columns ← columnList
    pure ("(" ++ listedNames columns ++ ")")
  else pure ""

/-- What is done with a row that cannot be added. -/
def onConflict (inner : Level) : Parse Fragment := do
  if ← keyword "ON" then
    if ← keyword "CONFLICT" then do
      let target ← conflictTarget
      expectKeyword "DO"
      if ← keyword "NOTHING" then pure (" ON CONFLICT" ++ target ++ " DO NOTHING")
      else do
        expectKeywords ["UPDATE", "SET"]
        let changes ← assignments inner
        let condition ← afterKeyword? "WHERE" inner.expr
        pure (" ON CONFLICT" ++ target ++ " DO UPDATE SET " ++ changes ++
          Fragment.clause " WHERE " (condition.map Expr.fragment))
    else do
      expectKeywords ["DUPLICATE", "KEY", "UPDATE"]
      let changes ← assignments inner
      pure (" ON DUPLICATE KEY UPDATE " ++ changes)
  else pure ""

/-- Whether a selection in parentheses comes next. -/
def nextIsSelection : Parse Bool := fun rest =>
  match rest with
  | ⟨.symbol "(", _⟩ :: ⟨word, _⟩ :: _ => .ok (word.isKeyword "SELECT", rest)
  | _ => .ok (false, rest)

/-- The columns that are filled, and the part of the table that rows are added to. -/
def insertedColumns (inner : Level) : Parse Fragment := do
  if ← nextIsSelection then pure ""
  else do
    let columns ← columnList?
    let parts ← afterKeyword? "PARTITION" (parenthesised inner.exprs)
    let columnPart := if columns.isEmpty then none else some (listedNames columns ++ ") ")
    pure (Fragment.clause "(" columnPart ++
      Fragment.clause "PARTITION (" (parts.map fun es => Expr.listed es ++ ") "))

/-- The rows that are added, with the columns they fill, and what follows them. -/
def insertedRows (inner : Level) : Parse Fragment := do
  let rows : Fragment ← if ← keywords ["DEFAULT", "VALUES"] then pure "DEFAULT VALUES"
    else do
      let columns ← insertedColumns inner
      let source ← inner.query
      pure (columns ++ source)
  let conflict ← onConflict inner
  let returned ← returningClause inner
  pure (rows ++ conflict ++ returned)

/-- A statement that adds rows to a table or writes them to a directory, after its keyword. -/
def insertion (inner : Level) : Parse Fragment := do
  let conflict ← conflictClause
  let overwrite := if ← keyword "OVERWRITE" then " OVERWRITE" else ""
  let into := if ← keyword "INTO" then " INTO" else ""
  let near := if ← keyword "LOCAL" then " LOCAL" else ""
  if ← keyword "DIRECTORY" then do
    let path ← literalText
    let format ← afterKeywords? ["STORED", "AS"] fileFormat
    let source ← inner.query
    pure (Fragment.words ("INSERT" ++ overwrite ++ near ++ " DIRECTORY '" ++ path ++ "'" ++
      ((format.map (" STORED AS " ++ ·)).getD "") ++ " ") ++ source)
  else do
    let marked := if ← keyword "TABLE" then " TABLE" else ""
    let name ← objectName
    let label ← afterKeyword? "AS" ident
    let start := if conflict = "" then "INSERT" ++ overwrite ++ into ++ marked ++ " "
      else "INSERT" ++ conflict ++ " INTO "
    let rows ← insertedRows inner
    pure (Fragment.words start ++ dottedFragment name ++
      Fragment.clause " AS " (label.map Ident.fragment) ++ " " ++ rows)

/-- A statement that changes rows, after its keyword. -/
def update (inner : Level) : Parse Fragment := do
  let conflict ← conflictClause
  let target ← tables inner
  expectKeyword "SET"
  let changes ← assignments inner
  let sources ← afterKeyword? "FROM" (tables inner)
  let condition ← afterKeyword? "WHERE" inner.expr
  let returned ← returningClause inner
  pure (Fragment.words ("UPDATE" ++ conflict ++ " ") ++ target ++ " SET " ++ changes ++
    Fragment.clause " FROM " sources ++ Fragment.clause " WHERE " (condition.map Expr.fragment) ++
    returned)

/-- The rest of a statement that removes rows. -/
def deletion (inner : Level) : Parse Unit := do
  let sources : Parse Unit := discard (separated (tables inner))
  if ← keyword "FROM" then pure ()
  else do
    objectNames
    expectKeyword "FROM"
  sources
  if ← keyword "USING" then sources
  whereClause inner
  discard (returningClause inner)
  discard (orderClause? inner)
  discard (limitClause inner none)

/-- What is done with the rows of a kind when tables are merged. -/
def mergeAction (inner : Level) (kind : String) : Parse Unit := do
  let forbidden (action : String) : Parse Unit :=
    fail (.expected (action ++ " is not allowed in a " ++ kind ++ " merge clause") none)
  let adds := kind = "NOT MATCHED" || kind = "NOT MATCHED BY TARGET"
  match ← oneOf? ["UPDATE", "INSERT", "DELETE"] with
  | some "UPDATE" =>
    if adds then forbidden "UPDATE"
    else do
      expectKeyword "SET"
      discard (assignments inner)
  | some "DELETE" => if adds then forbidden "DELETE" else pure ()
  | some _ =>
    if adds then do
      discard columnList?
      expectKeyword "VALUES"
      discard (valueRows inner)
    else forbidden "INSERT"
  | none => fail (.expected "expected UPDATE, DELETE or INSERT in merge clause" none)

/-- What is done with some of the rows when tables are merged; nothing at the end of the
statement. -/
def mergeClause (inner : Level) : Parse Bool := do
  if (← peek?).all (·.isSymbol ";") then pure false
  else do
    expectKeyword "WHEN"
    let missing ← keyword "NOT"
    expectKeyword "MATCHED"
    let kind ← if !missing then pure "MATCHED"
      else do
        if ← keywords ["BY", "SOURCE"] then pure "NOT MATCHED BY SOURCE"
        else if ← keywords ["BY", "TARGET"] then pure "NOT MATCHED BY TARGET"
        else pure "NOT MATCHED"
    discard (afterKeyword? "AND" inner.expr)
    expectKeyword "THEN"
    mergeAction inner kind
    pure true

/-- The rest of a statement that merges tables. -/
def merge (inner : Level) : Parse Unit := do
  discard (keyword "INTO")
  discard (table inner)
  expectKeyword "USING"
  discard (table inner)
  expectKeyword "ON"
  discard inner.expr
  repeatedly (mergeClause inner)

/-- Whether a switch is on, in an option of a copy. -/
def switch : Parse Unit := discard (oneOf? ["TRUE", "FALSE"])

/-- An option of a copy. -/
def copyOption : Parse Unit := do
  match ← oneOf? ["FORMAT", "FREEZE", "DELIMITER", "NULL", "HEADER", "QUOTE", "ESCAPE",
    "FORCE_QUOTE", "FORCE_NOT_NULL", "FORCE_NULL", "ENCODING"] with
  | some "FORMAT" => discard ident
  | some "FREEZE" | some "HEADER" => switch
  | some "DELIMITER" | some "QUOTE" | some "ESCAPE" => literalCharacter
  | some "NULL" | some "ENCODING" => discard literalText
  | some _ => discard columnList
  | none => expected "option"

/-- An option of the old kind for the format of a copied file. -/
def oldFormatOption : Parse Unit := do
  match ← oneOf? ["HEADER", "QUOTE", "ESCAPE", "FORCE"] with
  | some "HEADER" => pure ()
  | some "FORCE" =>
    if ← keywords ["NOT", "NULL"] then idents
    else if ← keyword "QUOTE" then idents
    else expected "option"
  | some _ => do
    discard (keyword "AS")
    literalCharacter
  | none => expected "option"

/-- An option of the old kind of a copy. -/
def oldCopyOption : Parse Unit := do
  match ← oneOf? ["BINARY", "DELIMITER", "NULL", "CSV"] with
  | some "BINARY" => pure ()
  | some "DELIMITER" => do
    discard (keyword "AS")
    literalCharacter
  | some "NULL" => do
    discard (keyword "AS")
    discard literalText
  | some _ => discard (whileSome (attempt oldFormatOption))
  | none => expected "option"

/-- Rows behind a statement that copies them, up to the mark of their end. -/
def copiedRows : List Lexeme → List Lexeme
  | ⟨.symbol "\\", _⟩ :: ⟨.symbol ".", _⟩ :: rest => rest
  | ⟨.symbol "\\", _⟩ :: _ :: rest => copiedRows rest
  | _ :: rest => copiedRows rest
  | [] => []

/-- The rest of a statement that copies rows. -/
def copy (inner : Level) : Parse Unit := do
  let fromQuery ← symbol "("
  if fromQuery then do
    discard inner.query
    expectSymbol ")"
  else do
    discard objectName
    discard columnList?
  match ← oneOf? ["FROM", "TO"] with
  | some "FROM" =>
    if fromQuery then
      fail (.expected "COPY ... FROM does not support query as a source" none)
  | some _ => pure ()
  | none => expected "FROM or TO"
  let source ← oneOf? ["STDIN", "STDOUT", "PROGRAM"]
  if source.all (· == "PROGRAM") then discard literalText
  discard (keyword "WITH")
  if ← symbol "(" then do
    discard (separated copyOption)
    expectSymbol ")"
  discard (whileSome (attempt oldCopyOption))
  if source = some "STDIN" then do
    expectSymbol ";"
    modify copiedRows

end EntityQuery.ConditionText.Parse
