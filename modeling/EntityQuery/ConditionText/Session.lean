import EntityQuery.ConditionText.Phrase

/-!
# Statements about a session

Settings are set and shown, transactions are started and ended, cursors are declared and moved, and
channels are listened to.
-/

namespace EntityQuery.ConditionText.Parse

/-- How far a transaction is kept apart from others. -/
def isolationLevel : Parse Unit := do
  if ← either (keywords ["READ", "UNCOMMITTED"]) (either (keywords ["READ", "COMMITTED"])
      (either (keywords ["REPEATABLE", "READ"]) (keyword "SERIALIZABLE"))) then pure ()
  else expected "isolation level"

/-- Properties of a transaction, at most the given number; behind a comma another one has to
follow. -/
def transactionModesAtMost : Nat → Bool → Parse Unit
  | 0, _ => pure ()
  | n + 1, required => do
    let told ← if ← keywords ["ISOLATION", "LEVEL"] then do
        isolationLevel
        pure true
      else either (keywords ["READ", "ONLY"]) (keywords ["READ", "WRITE"])
    if told then do
      let comma ← symbol ","
      transactionModesAtMost n comma
    else if required then expected "transaction mode"
    else pure ()

/-- Properties of a transaction. -/
def transactionModes : Parse Unit := do transactionModesAtMost ((← get).length + 1) false

/-- Whether another transaction follows the one that is ended. -/
def transactionChain : Parse Unit := do
  discard (oneOf? ["TRANSACTION", "WORK"])
  if ← keyword "AND" then do
    discard (keyword "NO")
    expectKeyword "CHAIN"

/-- The rest of a statement that takes a transaction back, as a whole or to a mark. -/
def rollback : Parse Unit := do
  transactionChain
  if ← keyword "TO" then do
    discard (keyword "SAVEPOINT")
    discard ident

/-- The role that a session takes on. -/
def sessionRole : Parse Unit := do
  expectKeyword "ROLE"
  if ← keyword "NONE" then pure () else discard ident

/-- The values of a setting, at most one more than the given number. -/
def settingValues (inner : Level) : Nat → Parse Unit
  | 0 => pure ()
  | n + 1 => do
    if ← nextIsQuery then discard inner.query else looseExpr inner "variable value"
    if ← symbol "," then settingValues inner n

/-- The value of a setting, or the properties of transactions. The first flag tells whether they are
those of this transaction. -/
def settingValue (inner : Level) (here : Bool) (name : String) : Parse Unit := do
  if ← either (symbol "=") (keyword "TO") then do settingValues inner ((← get).length + 1)
  else if Unicode.lowerAscii name = "timezone" then looseExpr inner "timezone value"
  else if name = "CHARACTERISTICS" then do
    expectKeywords ["AS", "TRANSACTION"]
    transactionModes
  else if name = "TRANSACTION" && here then
    if ← keyword "SNAPSHOT" then discard constant else transactionModes
  else expected "equals sign or TO"

/-- The rest of a statement that sets a setting. -/
def setting (inner : Level) : Parse Unit := do
  let reach ← oneOf? ["SESSION", "LOCAL", "HIVEVAR"]
  let role ← if reach = some "HIVEVAR" then do
      expectSymbol ":"
      pure none
    else attempt sessionRole
  if role.isNone then do
    let name ← if ← keywords ["TIME", "ZONE"] then pure "TIMEZONE" else dotted <$> objectName
    settingValue inner reach.isNone name

/-- Which objects are shown. -/
def shownFilter (inner : Level) : Parse Unit := do
  match ← oneOf? ["LIKE", "ILIKE", "WHERE"] with
  | some "WHERE" => discard inner.expr
  | some _ => discard literalText
  | none => discard (attempt literalText)

/-- Where the shown objects are. -/
def shownPlace : Parse Unit := do
  if (← oneOf? ["FROM", "IN"]).isSome then
    match ← oneOf? ["ACCOUNT", "DATABASE", "SCHEMA", "TABLE", "VIEW"] with
    | some kind => do
      let ends := (← nextAre ["STARTS", "WITH"]) || (← nextAre ["LIMIT"])
      if (kind = "DATABASE" || kind = "SCHEMA") && ends then pure () else looseName
    | none => do
      discard objectName
      if (← oneOf? ["FROM", "IN"]).isSome then discard ident

/-- Which objects are shown, where they are and how many. -/
def shownObjects (inner : Level) : Parse Unit := do
  shownPlace
  shownFilter inner
  discard (afterKeywords? ["STARTS", "WITH"] constant)
  discard (limitClause inner none)
  discard (afterKeyword? "FROM" constant)

/-- The name of a setting that is shown: all that is left, up to an equals sign. -/
def shownSetting : Parse Unit := modify fun rest => rest.dropWhile (!·.token.isSymbol "=")

/-- The rest of a statement that shows objects or settings. -/
def showing (inner : Level) : Parse Unit := do
  discard (keyword "TERSE")
  let extended ← keyword "EXTENDED"
  let full ← keyword "FULL"
  discard (keyword "SESSION")
  discard (keyword "GLOBAL")
  discard (keyword "EXTERNAL")
  if (← oneOf? ["COLUMNS", "FIELDS", "TABLES"]).isSome then shownObjects inner
  else if ← either (keywords ["MATERIALIZED", "VIEWS"]) (keyword "VIEWS") then shownObjects inner
  else if ← keyword "FUNCTIONS" then shownFilter inner
  else if extended || full then
    fail (.expected "EXTENDED/FULL are not supported with this type of SHOW query" none)
  else if ← keyword "CREATE" then do
    discard (expectOneOf ["TABLE", "TRIGGER", "FUNCTION", "PROCEDURE", "EVENT", "VIEW"])
    discard objectName
  else if ← keyword "COLLATION" then shownFilter inner
  else do
    discard (keyword "VARIABLES")
    discard (keyword "STATUS")
    if (← oneOf? ["DATABASES", "SCHEMAS"]).isSome then do
      discard (keyword "HISTORY")
      shownObjects inner
    else shownSetting

/-- The rest of a statement that declares a cursor. -/
def cursorDeclaration (inner : Level) : Parse Unit := do
  discard ident
  discard (keyword "BINARY")
  discard (oneOf? ["INSENSITIVE", "ASENSITIVE"])
  if ← keyword "SCROLL" then pure () else discard (keywords ["NO", "SCROLL"])
  expectKeyword "CURSOR"
  if (← oneOf? ["WITH", "WITHOUT"]).isSome then expectKeyword "HOLD"
  expectKeyword "FOR"
  discard inner.query

/-- Which rows a cursor gives. -/
def cursorMove : Parse Unit := do
  match ← oneOf? ["NEXT", "PRIOR", "FIRST", "LAST", "ABSOLUTE", "RELATIVE", "FORWARD", "BACKWARD",
    "ALL"] with
  | some "ABSOLUTE" | some "RELATIVE" => discard numberValue
  | some "FORWARD" | some "BACKWARD" =>
    if ← keyword "ALL" then pure () else discard numberValue
  | some _ => pure ()
  | none => discard numberValue

/-- The rest of a statement that gets rows from a cursor. -/
def cursorFetch : Parse Unit := do
  cursorMove
  discard (expectOneOf ["FROM", "IN"])
  discard ident
  discard (afterKeyword? "INTO" objectName)

/-- The rest of a statement that closes cursors. -/
def cursorClose : Parse Unit := do
  if ← keyword "ALL" then pure () else discard ident

/-- The rest of a statement that ends listening. -/
def unlisten : Parse Unit := do
  if ← symbol "*" then pure ()
  else
    match ← attempt ident with
    | some _ => pure ()
    | none => expected "wildcard or identifier"

/-- The rest of a statement that notifies listeners. -/
def notify : Parse Unit := do
  discard ident
  discard (afterSymbol? "," literalText)

end EntityQuery.ConditionText.Parse
