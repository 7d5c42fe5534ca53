import EntityQuery.ConditionText.Role
import EntityQuery.ConditionText.TableDefinition

/-!
# Changes of objects

Tables are changed by one or more operations, indexes by a new name, views by a new query; roles and
policies by phrases of their own.
-/

namespace EntityQuery.ConditionText.Parse

/-- What is added to a table. -/
def tableAddition (inner : Level) : Parse Unit := do
  if ← tableConstraint inner then pure ()
  else do
    discard ifNotExists
    let parts ← whileSome (afterKeyword? "PARTITION" (exprsInParentheses inner))
    if parts.isEmpty then do
      discard (keyword "COLUMN")
      discard ifNotExists
      columnDefinition inner

/-- What is given another name in a table, or the table itself. -/
def tableRenaming : Parse Unit := do
  if ← keyword "CONSTRAINT" then do
    discard ident
    expectKeyword "TO"
    discard ident
  else if ← keyword "TO" then discard objectName
  else do
    discard (keyword "COLUMN")
    discard ident
    expectKeyword "TO"
    discard ident

/-- What is switched off for a table. -/
def tableDisabling : Parse Unit := do
  if ← keywords ["ROW", "LEVEL", "SECURITY"] then pure ()
  else
    match ← oneOf? ["RULE", "TRIGGER"] with
    | some _ => discard ident
    | none => expected "ROW LEVEL SECURITY, RULE, or TRIGGER after DISABLE"

/-- What is switched on for a table. -/
def tableEnabling : Parse Unit := do
  let starts : List (List String) :=
    [["ALWAYS", "RULE"], ["ALWAYS", "TRIGGER"], ["REPLICA", "RULE"], ["REPLICA", "TRIGGER"],
     ["RULE"], ["TRIGGER"]]
  match ← afterFirstOf (starts.map keywords) with
  | some _ => discard ident
  | none =>
    if ← keywords ["ROW", "LEVEL", "SECURITY"] then pure ()
    else expected "ALWAYS, REPLICA, ROW LEVEL SECURITY, RULE, or TRIGGER after ENABLE"

/-- What is removed from a table. The words for a primary key or a projection are used up; a column
has to follow them. -/
def tableRemoval (inner : Level) : Parse Unit := do
  if ← either (keywords ["IF", "EXISTS", "PARTITION"]) (keyword "PARTITION") then
    exprsInParentheses inner
  else if ← keyword "CONSTRAINT" then do
    discard ifExists
    discard ident
    dependents
  else do
    discard (keywords ["PRIMARY", "KEY"])
    discard (keyword "PROJECTION")
    if ← keywords ["CLUSTERING", "KEY"] then pure ()
    else do
      discard (keyword "COLUMN")
      discard ifExists
      discard ident
      dependents

/-- A column of a table that is defined anew. -/
def columnRedefinition (inner : Level) (renamed : Bool) : Parse Unit := do
  discard (keyword "COLUMN")
  discard ident
  if renamed then discard ident
  discard dataType
  repeatedly (columnOption inner)

/-- What is changed about a column of a table. -/
def columnChange (inner : Level) : Parse Unit := do
  discard (keyword "COLUMN")
  discard ident
  if ← either (keywords ["SET", "NOT", "NULL"]) (keywords ["DROP", "NOT", "NULL"]) then pure ()
  else if ← keywords ["SET", "DEFAULT"] then discard inner.expr
  else if ← keywords ["DROP", "DEFAULT"] then pure ()
  else if ← either (keywords ["SET", "DATA", "TYPE"]) (keyword "TYPE") then do
    discard dataType
    discard (afterKeyword? "USING" inner.expr)
  else if ← keywords ["ADD", "GENERATED"] then do
    if ← keyword "ALWAYS" then pure () else discard (keywords ["BY", "DEFAULT"])
    expectKeywords ["AS", "IDENTITY"]
    sequenceOptions?
  else
    expected ("SET/DROP NOT NULL, SET DEFAULT, SET DATA TYPE, or ADD GENERATED after ALTER COLUMN")

/-- An operation on a table of one of the less common kinds. -/
def otherTableOperation (inner : Level) : Parse Unit := do
  if ← keyword "SWAP" then do
    expectKeyword "WITH"
    discard objectName
  else if ← keywords ["OWNER", "TO"] then owner
  else if ← keywords ["CLUSTER", "BY"] then exprsInParentheses inner
  else if (← oneOf? ["SUSPEND", "RESUME"]).isSome then expectKeyword "RECLUSTER"
  else if ← optionsAfter inner ["SET", "TBLPROPERTIES"] then pure ()
  else expected "ADD, RENAME, PARTITION, SWAP, DROP, or SET TBLPROPERTIES after ALTER TABLE"

/-- An operation on a table. -/
def tableOperation (inner : Level) : Parse Unit := do
  match ← oneOf? ["ADD", "RENAME", "DISABLE", "ENABLE"] with
  | some "ADD" => tableAddition inner
  | some "RENAME" => tableRenaming
  | some "DISABLE" => tableDisabling
  | some _ => tableEnabling
  | none => do
    discard (keywords ["CLEAR", "PROJECTION"])
    discard (keywords ["MATERIALIZE", "PROJECTION"])
    match ← oneOf? ["DROP", "PARTITION", "CHANGE", "MODIFY", "ALTER"] with
    | some "DROP" => tableRemoval inner
    | some "PARTITION" => do
      exprsInParentheses inner
      expectKeywords ["RENAME", "TO", "PARTITION"]
      exprsInParentheses inner
    | some "CHANGE" => columnRedefinition inner true
    | some "MODIFY" => columnRedefinition inner false
    | some _ => columnChange inner
    | none => otherTableOperation inner

/-- A change of a table, after the keyword. -/
def tableChange (inner : Level) : Parse Unit := do
  discard ifExists
  discard (keyword "ONLY")
  discard objectName
  onCluster
  discard (separated (tableOperation inner))
  if ← either (keyword "LOCATION") (keywords ["SET", "LOCATION"]) then discard ident

/-- The rest of a statement that changes an object. -/
def alteration (inner : Level) : Parse Unit := do
  match ← expectOneOf ["VIEW", "TABLE", "INDEX", "ROLE", "POLICY"] with
  | "VIEW" => do
    discard objectName
    discard columnList?
    discard (optionsAfter inner ["WITH"])
    expectKeyword "AS"
    discard inner.query
  | "TABLE" => tableChange inner
  | "INDEX" => do
    discard objectName
    if ← keyword "RENAME" then
      if ← keyword "TO" then discard objectName else expected "TO after RENAME"
    else expected "RENAME after ALTER INDEX"
  | "ROLE" => roleChange inner
  | _ => policyChange inner

end EntityQuery.ConditionText.Parse
