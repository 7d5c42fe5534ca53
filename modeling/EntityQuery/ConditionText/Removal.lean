import EntityQuery.ConditionText.Role

/-!
# Removals of objects

Objects are removed by their names. Functions are told by their arguments too, policies and triggers
by the table they belong to.
-/

namespace EntityQuery.ConditionText.Parse

/-- The kinds of objects that are removed by their names alone. -/
def removableKinds : List String :=
  ["TABLE", "VIEW", "INDEX", "ROLE", "SCHEMA", "DATABASE", "SEQUENCE", "STAGE", "TYPE"]

/-- Objects of a kind that are removed by their names. -/
def namedRemoval (kind : String) : Parse Unit := do
  discard ifExists
  objectNames
  let place ← place
  let (cascade, restrict) ← oneAnswer "DROP"
  let purge ← keyword "PURGE"
  if kind = "ROLE" && (cascade || restrict || purge) then
    fail (.expected "Cannot specify CASCADE, RESTRICT, or PURGE in DROP ROLE" place)

/-- Functions or procedures that are removed. -/
def functionRemoval (inner : Level) : Parse Unit := do
  discard ifExists
  discard (separated (declaredFunction inner))
  dependents

/-- The rest of a statement that removes objects. -/
def removal (inner : Level) : Parse Unit := do
  match ← oneOf? (removableKinds ++ ["FUNCTION", "POLICY", "PROCEDURE", "SECRET", "TRIGGER"]) with
  | some "FUNCTION" | some "PROCEDURE" => functionRemoval inner
  | some "POLICY" => do
    discard ifExists
    discard ident
    expectKeyword "ON"
    discard objectName
    dependents
  | some "SECRET" => do
    discard ifExists
    discard ident
    if ← keyword "FROM" then discard looseIdent
  | some "TRIGGER" => do
    discard ifExists
    discard objectName
    expectKeyword "ON"
    discard objectName
    dependents
  | some kind => namedRemoval kind
  | none =>
    expected ("TABLE, VIEW, INDEX, ROLE, SCHEMA, DATABASE, FUNCTION, PROCEDURE, STAGE, TRIGGER, " ++
      "SECRET, SEQUENCE, or TYPE after DROP")

/-- The rest of a statement that empties tables. -/
def truncation (inner : Level) : Parse Unit := do
  discard (keyword "TABLE")
  discard (keyword "ONLY")
  objectNames
  discard (afterKeyword? "PARTITION" (exprsInParentheses inner))
  if ← keywords ["RESTART", "IDENTITY"] then pure ()
  else discard (keywords ["CONTINUE", "IDENTITY"])
  dependents
  onCluster

/-- The rest of a statement that drops what a session has kept. -/
def discarding : Parse Unit := do
  match ← oneOf? ["ALL", "PLANS", "SEQUENCES", "TEMP", "TEMPORARY"] with
  | some _ => pure ()
  | none => expected "ALL, PLANS, SEQUENCES, TEMP or TEMPORARY after DISCARD"

end EntityQuery.ConditionText.Parse
