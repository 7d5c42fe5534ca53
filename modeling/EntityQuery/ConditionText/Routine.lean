import EntityQuery.ConditionText.Phrase

/-!
# Statements about other statements and about files

Statements are explained, prepared, executed and deallocated. Tables are analysed and cached,
databases attached, libraries loaded, results unloaded, remarks made.
-/

namespace EntityQuery.ConditionText.Parse

/-- An option of an explanation. -/
def explanationOption (inner : Level) : Parse Unit := do
  discard ident
  if ← nextIs fun t => t.isSymbol "," || t.isSymbol ")" then pure () else discard inner.expr

/-- What is told in an explanation; the flag tells whether options in parentheses may tell it. -/
def explanationOptions (inner : Level) (listed : Bool) : Parse Unit := do
  if listed && (← nextIs (·.isSymbol "(")) then
    discard (parenthesised (separated (explanationOption inner)))
  else if ← keywords ["QUERY", "PLAN"] then pure ()
  else do
    discard (keyword "ANALYZE")
    discard (keyword "VERBOSE")
    if ← keyword "FORMAT" then
      match ← oneOf? ["TEXT", "GRAPHVIZ", "JSON"] with
      | some _ => pure ()
      | none => expected "fileformat"

/-- The rest of a statement that explains a statement or describes a table. -/
def explanation (inner : Level) (listed : Bool) : Parse Unit := do
  explanationOptions inner listed
  match ← attempt inner.statement with
  | some .explanation => fail (.expected "Explain must be root of the plan" none)
  | some .plain => pure ()
  | none => do
    discard (oneOf? ["EXTENDED", "FORMATTED"])
    discard objectName

/-- The rest of a statement that prepares a statement. -/
def preparation (inner : Level) : Parse Unit := do
  discard ident
  if ← symbol "(" then do
    discard (separated dataType)
    expectSymbol ")"
  expectKeyword "AS"
  discard inner.statement

/-- The rest of a statement that executes a prepared one. Without parentheses the values go up to
the end of the statement. -/
def execution (inner : Level) : Parse Unit := do
  discard objectName
  if ← symbol "(" then do
    if ← nextIs (·.isSymbol ")") then pure () else discard inner.exprs
    expectSymbol ")"
  else if (← peek?).all fun t => t.isSymbol ";" || t.isKeyword "USING" then pure ()
  else discard inner.exprs
  discard (afterKeyword? "USING" inner.exprs)

/-- The rest of a statement that calls a procedure. -/
def procedureCall (inner : Level) : Parse Unit := do
  let name ← objectName
  if ← nextIs (·.isSymbol "(") then discard (call inner name)

/-- A part of an analysis, if one follows. -/
def analysisClause (inner : Level) : Parse Bool := do
  match ← oneOf? ["PARTITION", "FOR", "CACHE", "NOSCAN", "COMPUTE"] with
  | some "PARTITION" => do
    exprsInParentheses inner
    pure true
  | some "FOR" => do
    expectKeyword "COLUMNS"
    discard (attempt idents)
    pure true
  | some "CACHE" => do
    expectKeyword "METADATA"
    pure true
  | some "COMPUTE" => do
    expectKeyword "STATISTICS"
    pure true
  | some _ => pure true
  | none => pure false

/-- The rest of a statement that analyses a table. -/
def analysis (inner : Level) : Parse Unit := do
  expectKeyword "TABLE"
  discard objectName
  repeatedly (analysisClause inner)

/-- The rest of a statement that attaches a database. -/
def attachment (inner : Level) : Parse Unit := do
  discard (keyword "DATABASE")
  discard inner.expr
  expectKeyword "AS"
  discard ident

/-- The rest of a statement that repairs the parts of a table. -/
def repair : Parse Unit := do
  discard (keyword "REPAIR")
  expectKeyword "TABLE"
  discard objectName
  discard <| attempt do
    discard (oneOf? ["ADD", "DROP", "SYNC"])
    expectKeyword "PARTITIONS"

/-- A table that is cached, after its keyword: its name, options, and the query it holds. -/
def cachedTable (inner : Level) : Parse Unit := do
  discard objectName
  discard (optionsAfter inner ["OPTIONS"])
  match ← peek? with
  | none => pure ()
  | some (.word _ _ _) => do
    discard (keyword "AS")
    discard inner.query
  | some _ => expected "a QUERY statement"

/-- The rest of a statement that caches a table. At the end of the text the missing keyword is
placed at the last token. -/
def caching (inner : Level) : Parse Unit := do
  if ← keyword "TABLE" then cachedTable inner
  else do
    let before ← get
    discard objectName
    if ← keyword "TABLE" then cachedTable inner
    else
      let place := (← place).orElse fun _ => before.getLast?.map (·.extent.first)
      fail (.expected "a `TABLE` keyword" place)

/-- The rest of a statement that drops a table from the cache. -/
def uncaching : Parse Unit := do
  expectKeyword "TABLE"
  discard ifExists
  discard objectName

/-- Whether a literal can be the value of a pragma. -/
def isPragmaValue : Token → Constant → Bool
  | .word _ true _, _ => true
  | _, .plainText _ | _, .number _ _ | _, .placeholder _ => true
  | _, _ => false

/-- The value of a pragma. -/
def pragmaValue : Parse Unit := do
  let before ← get
  let value ← constant
  if before.head?.any fun l => isPragmaValue l.token value then pure ()
  else do
    set before
    expected "number or string or ? placeholder"

/-- The rest of a pragma. -/
def pragma : Parse Unit := do
  discard objectName
  if ← symbol "(" then do
    pragmaValue
    expectSymbol ")"
  else if ← symbol "=" then pragmaValue
  else pure ()

/-- The rest of a statement that writes the rows of a query to a file. -/
def unloading (inner : Level) : Parse Unit := do
  discard (parenthesised inner.query)
  expectKeyword "TO"
  discard ident
  discard (optionsAfter inner ["WITH"])

/-- The kinds of objects that a remark can be about. -/
def remarkable : List String :=
  ["COLUMN", "TABLE", "EXTENSION", "SCHEMA", "DATABASE", "USER", "ROLE"]

/-- The rest of a statement that makes a remark about an object. -/
def remark : Parse Unit := do
  discard ifExists
  expectKeyword "ON"
  match ← oneOf? remarkable with
  | some _ => discard objectName
  | none => expected "comment object_type"
  expectKeyword "IS"
  if ← keyword "NULL" then pure () else discard literalText

/-- The rest of a statement that ends a connection. -/
def killing : Parse Unit := do
  let kind ← oneOf? ["CONNECTION", "QUERY", "MUTATION"]
  discard literalNat
  if kind = some "MUTATION" then
    expected "Unsupported type for KILL, allowed: CONNECTION | QUERY"

end EntityQuery.ConditionText.Parse
