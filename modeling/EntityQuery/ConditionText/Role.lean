import EntityQuery.ConditionText.Phrase

/-!
# Roles and what they may do

Roles are made and changed with options; privileges on objects are given to them and taken away;
policies tell which rows of a table they see.
-/

namespace EntityQuery.ConditionText.Parse

/-- The options of a role that are switched by a word and its opposite. -/
def roleSwitches : List String :=
  ["LOGIN", "INHERIT", "BYPASSRLS", "CREATEDB", "CREATEROLE", "SUPERUSER", "REPLICATION"]

/-- The words that switch options of a role on and off. -/
def roleSwitchWords : List String := roleSwitches.flatMap fun word => [word, "NO" ++ word]

/-- The option that a word switches, with its opposite. -/
def switchedOption (word : String) : String :=
  let on := if roleSwitches.contains word then word else (word.drop 2).toString
  on ++ " or NO" ++ on

/-- The password of a role. -/
def password : Parse Unit := do
  if ← keyword "NULL" then pure () else discard constant

/-- An option of a new role, if one follows: what it is called, and whether it is told here. A word
that starts no option ends the options but is used up. An option is told once only; what has been
told is the argument. -/
def roleOption (told : List String) : Parse (Option String) := do
  let place ← place
  let once (option : String) (contents : Parse Unit) : Parse (Option String) :=
    if told.contains option then fail (.expected ("Found multiple " ++ option) place)
    else do
      contents
      pure (some option)
  match ← oneOf? (roleSwitchWords ++
    ["PASSWORD", "CONNECTION", "VALID", "IN", "GROUP", "ROLE", "ADMIN", "USER"]) with
  | some "PASSWORD" => once "PASSWORD" password
  | some "CONNECTION" => do
    expectKeyword "LIMIT"
    once "CONNECTION LIMIT" (discard numberValue)
  | some "VALID" => do
    expectKeyword "UNTIL"
    once "VALID UNTIL" (discard constant)
  | some "IN" =>
    if ← keyword "ROLE" then once "IN ROLE" idents
    else if ← keyword "GROUP" then once "IN GROUP" idents
    else expected "ROLE or GROUP after IN"
  | some "ROLE" => once "ROLE" idents
  | some "USER" => once "USER" idents
  | some "ADMIN" => once "ADMIN" idents
  | some "GROUP" => pure none
  | some word => once (switchedOption word) (pure ())
  | none => pure none

/-- The options of a new role besides those that have been told, at most the given number. -/
def roleOptions : Nat → List String → Parse Unit
  | 0, _ => pure ()
  | n + 1, told => do
    match ← roleOption told with
    | some option => roleOptions n (option :: told)
    | none => pure ()

/-- The definition of roles, after the keyword. -/
def roleDefinition : Parse Unit := do
  discard ifNotExists
  objectNames
  discard (keyword "WITH")
  roleOptions (← get).length []

/-- An option of a role that is changed. -/
def changedRoleOption : Parse Unit := do
  match ← oneOf? (roleSwitchWords ++ ["PASSWORD", "CONNECTION", "VALID"]) with
  | some "PASSWORD" => password
  | some "CONNECTION" => do
    expectKeyword "LIMIT"
    discard numberValue
  | some "VALID" => do
    expectKeyword "UNTIL"
    discard constant
  | some _ => pure ()
  | none => expected "option"

/-- The value of a setting of a role. -/
def roleSettingValue (inner : Level) : Parse Unit := do
  if ← keywords ["FROM", "CURRENT"] then pure ()
  else if ← either (symbol "=") (keyword "TO") then
    if ← keyword "DEFAULT" then pure () else looseExpr inner "config value"
  else expected "'TO' or '=' or 'FROM CURRENT'"

/-- A change of a role, after the keyword. -/
def roleChange (inner : Level) : Parse Unit := do
  discard ident
  if ← keywords ["IN", "DATABASE"] then looseName
  if ← keyword "RENAME" then
    if ← keyword "TO" then discard ident else expected "TO after RENAME"
  else if ← keyword "SET" then do
    discard objectName
    roleSettingValue inner
  else if ← keyword "RESET" then
    if ← keyword "ALL" then pure () else discard objectName
  else do
    discard (keyword "WITH")
    let options ← whileSome (attempt changedRoleOption)
    if options.isEmpty then expected "option"

/-- Whom a policy holds for, and the rows that may be seen and written. -/
def policyTail (inner : Level) : Parse Unit := do
  discard (afterKeyword? "TO" (separated owner))
  discard (afterKeyword? "USING" (parenthesised inner.expr))
  discard (afterKeywords? ["WITH", "CHECK"] (parenthesised inner.expr))

/-- The definition of a policy, after the keyword. -/
def policyDefinition (inner : Level) : Parse Unit := do
  discard ident
  expectKeyword "ON"
  discard objectName
  discard (afterKeyword? "AS" (expectOneOf ["PERMISSIVE", "RESTRICTIVE"]))
  discard (afterKeyword? "FOR" (expectOneOf ["ALL", "SELECT", "INSERT", "UPDATE", "DELETE"]))
  policyTail inner

/-- A change of a policy, after the keyword. -/
def policyChange (inner : Level) : Parse Unit := do
  discard ident
  expectKeyword "ON"
  discard objectName
  if ← keyword "RENAME" then do
    expectKeyword "TO"
    discard ident
  else policyTail inner

/-- A privilege, possibly only on some columns. -/
def privilege : Parse Unit := do
  match ← oneOf? ["CONNECT", "CREATE", "DELETE", "EXECUTE", "INSERT", "REFERENCES", "SELECT",
    "TEMPORARY", "TRIGGER", "TRUNCATE", "UPDATE", "USAGE"] with
  | some word =>
    if ["INSERT", "REFERENCES", "SELECT", "UPDATE"].contains word then discard columnList?
  | none => expected "a privilege keyword"

/-- Privileges on objects. -/
def privilegesOnObjects : Parse Unit := do
  if ← keyword "ALL" then discard (keyword "PRIVILEGES") else discard (separated privilege)
  expectKeyword "ON"
  if ← either (keywords ["ALL", "TABLES", "IN", "SCHEMA"])
      (keywords ["ALL", "SEQUENCES", "IN", "SCHEMA"]) then objectNames
  else do
    discard (oneOf? ["SEQUENCE", "SCHEMA", "TABLE"])
    objectNames

/-- In whose name privileges are given or taken. -/
def grantedBy : Parse Unit := discard (afterKeywords? ["GRANTED", "BY"] ident)

/-- The rest of a statement that gives privileges. -/
def grant : Parse Unit := do
  privilegesOnObjects
  expectKeyword "TO"
  idents
  discard (keywords ["WITH", "GRANT", "OPTION"])
  grantedBy

/-- What is done with what depends on something; only one of two answers may be given. -/
def oneAnswer (statement : String) : Parse (Bool × Bool) := do
  let place ← place
  let cascade ← keyword "CASCADE"
  let restrict ← keyword "RESTRICT"
  if cascade && restrict then
    fail (.expected ("Cannot specify both CASCADE and RESTRICT in " ++ statement) place)
  else pure (cascade, restrict)

/-- The rest of a statement that takes privileges away. -/
def revoke : Parse Unit := do
  privilegesOnObjects
  expectKeyword "FROM"
  idents
  grantedBy
  discard (oneAnswer "REVOKE")

end EntityQuery.ConditionText.Parse
