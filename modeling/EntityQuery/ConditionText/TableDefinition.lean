import EntityQuery.ConditionText.Phrase

/-!
# Definitions of tables

A table is defined by its columns and constraints, in parentheses, and by clauses behind them. The
clauses come in a fixed order and may each be missing. A column is defined by its name, its type and
any number of options.
-/

namespace EntityQuery.ConditionText.Parse

/-- How a sequence of numbers goes on. -/
def sequenceOptions : Parse Unit := do
  if ← keyword "INCREMENT" then do
    discard (keyword "BY")
    discard signedNumber
  if ← keyword "MINVALUE" then discard signedNumber else discard (keywords ["NO", "MINVALUE"])
  if ← keyword "MAXVALUE" then discard signedNumber else discard (keywords ["NO", "MAXVALUE"])
  if ← keyword "START" then do
    discard (keyword "WITH")
    discard signedNumber
  discard (afterKeyword? "CACHE" signedNumber)
  if ← keywords ["NO", "CYCLE"] then pure () else discard (keyword "CYCLE")

/-- How a sequence of numbers goes on, in parentheses that may be missing. -/
def sequenceOptions? : Parse Unit := do
  if ← symbol "(" then do
    sequenceOptions
    expectSymbol ")"

/-- What is done with rows that refer to a row that goes away. -/
def referentialAction : Parse Unit := do
  match ← oneOf? ["RESTRICT", "CASCADE"] with
  | some _ => pure ()
  | none =>
    if ← either (keywords ["SET", "NULL"]) (either (keywords ["NO", "ACTION"])
        (keywords ["SET", "DEFAULT"])) then pure ()
    else expected "one of RESTRICT, CASCADE, SET NULL, NO ACTION or SET DEFAULT"

/-- What is done when the row that is referred to is removed or changed. -/
def referentialActions : Parse Unit :=
  let onEvent (event : String) : Parse Bool :=
    Option.isSome <$> afterKeywords? ["ON", event] referentialAction
  eachOnce [onEvent "DELETE", onEvent "UPDATE"]

/-- When a constraint is checked. -/
def checkingTime : Parse Unit :=
  let switched (word : String) : Parse Bool := do
    if ← keyword word then pure true else keywords ["NOT", word]
  let initially : Parse Bool :=
    Option.isSome <$> afterKeyword? "INITIALLY" do
      match ← oneOf? ["DEFERRED", "IMMEDIATE"] with
      | some _ => pure ()
      | none => expected "one of DEFERRED or IMMEDIATE"
  eachOnce [switched "DEFERRABLE", initially, switched "ENFORCED"]

/-- The method of an index, if it is given. -/
def indexMethod : Parse Bool :=
  Option.isSome <$> afterKeyword? "USING" do
    match ← oneOf? ["BTREE", "HASH"] with
    | some _ => pure ()
    | none => expected "index type \x7bBTREE | HASH\x7d"

/-- The index of a constraint: its name, its method, its columns and its options. -/
def constraintIndex : Parse Unit := do
  discard (attempt ident)
  discard indexMethod
  discard columnList
  repeatedly do
    if ← indexMethod then pure true
    else Option.isSome <$> afterKeyword? "COMMENT" literalText
  checkingTime

/-- Whether nulls count as different, if it is told. -/
def nullsDistinct : Parse Unit := do
  if ← keyword "NULLS" then do
    discard (keyword "NOT")
    expectKeyword "DISTINCT"

/-- A constraint of a table, if one follows. -/
def tableConstraint (inner : Level) : Parse Bool := do
  let name ← afterKeyword? "CONSTRAINT" ident
  match ← oneOf? ["UNIQUE", "PRIMARY", "FOREIGN", "CHECK"] with
  | some "UNIQUE" => do
    if (← oneOf? ["KEY", "INDEX"]).isSome then
      expected "`index_name` or `(column_name [, ...])`"
    nullsDistinct
    constraintIndex
    pure true
  | some "PRIMARY" => do
    expectKeyword "KEY"
    constraintIndex
    pure true
  | some "FOREIGN" => do
    expectKeyword "KEY"
    discard columnList
    expectKeyword "REFERENCES"
    discard objectName
    discard columnList
    referentialActions
    checkingTime
    pure true
  | some _ => do
    discard (parenthesised inner.expr)
    pure true
  | none =>
    if name.isSome then expected "PRIMARY, UNIQUE, FOREIGN, or CHECK" else pure false

/-- How the values of a column are generated, after the keyword; tells whether it is told. -/
def generation (inner : Level) : Parse Bool := do
  if ← either (keywords ["ALWAYS", "AS", "IDENTITY"])
      (keywords ["BY", "DEFAULT", "AS", "IDENTITY"]) then do
    sequenceOptions?
    pure true
  else if ← keywords ["ALWAYS", "AS"] then
    if ← symbol "(" then do
      discard inner.expr
      expectSymbol ")"
      expectKeyword "STORED"
      pure true
    else pure false
  else pure false

/-- An option of a column, if one follows. Some words that are no options here are used up where
they follow each other in a fixed order. -/
def columnOption (inner : Level) : Parse Bool := do
  if ← keywords ["CHARACTER", "SET"] then do
    discard objectName
    pure true
  else if ← keywords ["NOT", "NULL"] then pure true
  else if ← keyword "COMMENT" then do
    match ← take? fun | .quotation .plain _ => true | _ => false with
    | some _ => pure true
    | none => expected "string"
  else if ← keyword "NULL" then pure true
  else if ← keyword "DEFAULT" then do
    discard inner.expr
    pure true
  else if ← either (keywords ["PRIMARY", "KEY"]) (keyword "UNIQUE") then do
    checkingTime
    pure true
  else if ← keyword "REFERENCES" then do
    discard objectName
    discard columnList?
    referentialActions
    checkingTime
    pure true
  else if ← keyword "CHECK" then do
    discard (parenthesised inner.expr)
    pure true
  else do
    discard (keyword "AUTO_INCREMENT")
    discard (keyword "AUTOINCREMENT")
    discard (keyword "ASC")
    discard (keyword "DESC")
    discard (keywords ["ON", "UPDATE"])
    if ← keyword "GENERATED" then generation inner
    else do
      discard (keyword "AS")
      discard (keyword "IDENTITY")
      pure false

/-- A column of a table. -/
def columnDefinition (inner : Level) : Parse Unit := do
  discard ident
  discard dataType
  discard (afterKeyword? "COLLATE" objectName)
  repeatedly do
    if ← keyword "CONSTRAINT" then do
      discard ident
      if ← columnOption inner then pure true
      else expected "constraint details after CONSTRAINT <name>"
    else columnOption inner

/-- Columns and constraints up to the closing parenthesis, at most the given number. -/
def columnsAndConstraints (inner : Level) : Nat → Parse Unit
  | 0 => pure ()
  | n + 1 => do
    if ← tableConstraint inner then pure ()
    else if ← nextIs (fun | .word _ _ _ => true | _ => false) then columnDefinition inner
    else expected "column name or constraint definition"
    if ← symbol "," then columnsAndConstraints inner n
    else if ← symbol ")" then pure ()
    else expected "',' or ')' after column definition"

/-- The columns and constraints of a table in parentheses, if there are any. -/
def tableBody (inner : Level) : Parse Unit := do
  if ← symbol "(" then
    if ← symbol ")" then pure ()
    else do columnsAndConstraints inner (← get).length

/-- The keywords of the marks between the parts of a row: the first one, and those behind it. -/
def rowMarks : List (String × List String) :=
  [("FIELDS", ["TERMINATED", "BY"]), ("COLLECTION", ["ITEMS", "TERMINATED", "BY"]),
   ("MAP", ["KEYS", "TERMINATED", "BY"]), ("LINES", ["TERMINATED", "BY"]),
   ("NULL", ["DEFINED", "AS"])]

/-- A mark between the parts of a row, if one follows. -/
def rowMark : Parse Bool := do
  match ← oneOf? (rowMarks.map (·.1)) with
  | some word =>
    if ← keywords ((rowMarks.lookup word).getD []) then do
      discard ident
      if word = "FIELDS" then discard (afterKeywords? ["ESCAPED", "BY"] ident)
      pure true
    else pure false
  | none => pure false

/-- How the rows of a table are stored, if it is told. -/
def storageClause (inner : Level) : Parse Bool := do
  match ← oneOf? ["ROW", "STORED", "LOCATION"] with
  | some "ROW" => do
    expectKeyword "FORMAT"
    if ← keyword "SERDE" then discard literalText
    else do
      discard (keyword "DELIMITED")
      repeatedly rowMark
    pure true
  | some "STORED" => do
    expectKeyword "AS"
    if ← keyword "INPUTFORMAT" then do
      discard inner.expr
      expectKeyword "OUTPUTFORMAT"
      discard inner.expr
    else discard fileFormat
    pure true
  | some _ => do
    discard literalText
    pure true
  | none => optionsAfter inner ["WITH", "SERDEPROPERTIES"]

/-- How the rows of a table are stored: the columns they are parted by, and the formats. -/
def storage (inner : Level) : Parse Unit := do
  discard <| afterKeywords? ["PARTITIONED", "BY"] <| parenthesised <|
    separated (columnDefinition inner)
  repeatedly (storageClause inner)

/-- The engine of a table and the first number of its rows. -/
def engineClauses : Parse Unit := do
  if ← keyword "ENGINE" then do
    expectSymbol "="
    anyWord
    if ← nextIs (·.isSymbol "(") then identsInParentheses
  if ← keyword "AUTO_INCREMENT" then do
    discard (symbol "=")
    discard (natBelow "u32" (Nat.pow 2 32))

/-- The order of the rows of a table and the expression they are parted by. -/
def layoutClauses (inner : Level) : Parse Unit := do
  if ← keywords ["ORDER", "BY"] then
    if ← symbol "(" then
      if ← symbol ")" then pure ()
      else do
        discard inner.exprs
        expectSymbol ")"
    else discard inner.expr
  discard (afterKeywords? ["PARTITION", "BY"] inner.expr)

/-- The character set and the collation of a table. -/
def characterClauses : Parse Unit := do
  let named : Parse Unit := do
    expectSymbol "="
    anyWord
  discard (afterKeywords? ["DEFAULT", "CHARSET"] named)
  discard (afterKeyword? "COLLATE" named)

/-- What is done with the rows of a table at the end of a transaction. -/
def onCommit : Parse Unit := do
  if ← keywords ["ON", "COMMIT"] then
    if ← either (keywords ["DELETE", "ROWS"]) (either (keywords ["PRESERVE", "ROWS"])
        (keyword "DROP")) then pure ()
    else do
      let next := (← peek?).map Token.text
      let found := next.getD "EOF"
      fail (.expected ("Expecting DELETE ROWS, PRESERVE ROWS or DROP" ++ found) none)

/-- A remark about a table. -/
def tableComment : Parse Unit := do
  if ← keyword "COMMENT" then do
    discard (symbol "=")
    match ← take? fun | .quotation .plain _ => true | _ => false with
    | some _ => pure ()
    | none => expected "comment"

/-- The definition of a table, after its keyword. -/
def tableDefinition (inner : Level) : Parse Unit := do
  discard ifNotExists
  discard objectName
  onCluster
  if ← either (keyword "LIKE") (keyword "ILIKE") then looseName
  if ← keyword "CLONE" then looseName
  tableBody inner
  discard (keywords ["WITHOUT", "ROWID"])
  storage inner
  discard (optionsAfter inner ["WITH"])
  discard (optionsAfter inner ["TBLPROPERTIES"])
  engineClauses
  layoutClauses inner
  characterClauses
  onCommit
  discard (keyword "STRICT")
  tableComment
  discard (afterKeyword? "AS" inner.query)

/-- The definition of a table outside the database, after the keyword that says so. -/
def externalTableDefinition (inner : Level) : Parse Unit := do
  expectKeyword "TABLE"
  discard ifNotExists
  discard objectName
  tableBody inner
  storage inner
  discard (optionsAfter inner ["TBLPROPERTIES"])

/-- The definition of a table that a module makes up, after the keyword that says so. -/
def virtualTableDefinition : Parse Unit := do
  expectKeyword "TABLE"
  discard ifNotExists
  discard objectName
  expectKeyword "USING"
  discard ident
  discard columnList?

end EntityQuery.ConditionText.Parse
