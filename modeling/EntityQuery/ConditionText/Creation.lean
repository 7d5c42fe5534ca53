import EntityQuery.ConditionText.Role
import EntityQuery.ConditionText.TableDefinition

/-!
# Definitions of objects

New objects are defined by their kind, their name and clauses that depend on the kind. Words in
front of the kind tell whether an object may be replaced and how long it stays.
-/

namespace EntityQuery.ConditionText.Parse

/-- A view, after the words in front of its keyword. -/
def viewDefinition (inner : Level) : Parse Unit := do
  discard objectName
  if ← symbol "(" then do
    identsBefore ")"
    expectSymbol ")"
  discard (optionsAfter inner ["WITH"])
  if ← keyword "CLUSTER" then do
    expectKeyword "BY"
    discard columnList?
  expectKeyword "AS"
  discard inner.query

/-- The body of a function that is a text. -/
def functionText : Parse Unit := do
  match ← take? fun | .dollarQuotation _ _ => true | _ => false with
  | some _ => pure ()
  | none => discard literalText

/-- A clause of the definition of a function, if one follows: the property it tells. A property is
told once only; what has been told is the argument. -/
def functionClause (inner : Level) (told : List String) : Parse (Option String) := do
  let body := "AS"
  let volatility := "IMMUTABLE | STABLE | VOLATILE"
  let onNull := "CALLED ON NULL INPUT | RETURNS NULL ON NULL INPUT | STRICT"
  let parallel := "PARALLEL \x7b UNSAFE | RESTRICTED | SAFE \x7d"
  let once (property name : String) (contents : Parse Unit) : Parse (Option String) :=
    if told.contains property then fail (.expected (name ++ " specified more than once") none)
    else do
      contents
      pure (some property)
  if ← keyword "AS" then once body "AS" functionText
  else if ← keyword "LANGUAGE" then once "LANGUAGE" "LANGUAGE" (discard ident)
  else if (← oneOf? ["IMMUTABLE", "STABLE", "VOLATILE"]).isSome then
    once volatility volatility (pure ())
  else if ← either (keywords ["CALLED", "ON", "NULL", "INPUT"])
      (either (keywords ["RETURNS", "NULL", "ON", "NULL", "INPUT"]) (keyword "STRICT")) then
    once onNull onNull (pure ())
  else if ← keyword "PARALLEL" then
    once parallel parallel do
      match ← oneOf? ["UNSAFE", "RESTRICTED", "SAFE"] with
      | some _ => pure ()
      | none => expected "one of UNSAFE | RESTRICTED | SAFE"
  else if ← keyword "RETURN" then once body "RETURN" (discard inner.expr)
  else pure none

/-- The clauses of the definition of a function besides those that have been told, at most the given
number. -/
def functionClauses (inner : Level) : Nat → List String → Parse Unit
  | 0, _ => pure ()
  | n + 1, told => do
    match ← functionClause inner told with
    | some property => functionClauses inner n (property :: told)
    | none => pure ()

/-- A function, after its keyword. -/
def functionDefinition (inner : Level) : Parse Unit := do
  discard objectName
  expectSymbol "("
  if ← nextIs (·.isSymbol ")") then pure () else discard (separated (declaredArgument inner))
  expectSymbol ")"
  discard (afterKeyword? "RETURNS" dataType)
  functionClauses inner (← get).length []

/-- The events that a trigger waits for, at most one more than the given number. -/
def triggerEvents : Nat → Parse Unit
  | 0 => pure ()
  | n + 1 => do
    match ← expectOneOf ["INSERT", "UPDATE", "DELETE", "TRUNCATE"] with
    | "UPDATE" => if ← keyword "OF" then idents
    | _ => pure ()
    if ← keyword "OR" then triggerEvents n

/-- A name for the rows that a trigger sees, if one follows. -/
def triggerRows : Parse Bool := do
  match ← oneOf? ["OLD", "NEW"] with
  | some _ =>
    if ← keyword "TABLE" then do
      discard (keyword "AS")
      discard objectName
      pure true
    else pure false
  | none => pure false

/-- A trigger, after its keyword. -/
def triggerDefinition (inner : Level) : Parse Unit := do
  discard objectName
  match ← expectOneOf ["BEFORE", "AFTER", "INSTEAD"] with
  | "INSTEAD" => expectKeyword "OF"
  | _ => pure ()
  triggerEvents ((← get).length + 1)
  expectKeyword "ON"
  discard objectName
  if ← keyword "FROM" then looseName
  checkingTime
  if ← keyword "REFERENCING" then repeatedly triggerRows
  expectKeyword "FOR"
  discard (keyword "EACH")
  discard (expectOneOf ["ROW", "STATEMENT"])
  discard (afterKeyword? "WHEN" inner.expr)
  expectKeyword "EXECUTE"
  discard (expectOneOf ["FUNCTION", "PROCEDURE"])
  declaredFunction inner

/-- A secret, after its keyword. -/
def secretDefinition : Parse Unit := do
  discard ifNotExists
  if ← nextIs (·.isSymbol "(") then pure ()
  else do
    let storageTold ← if ← keyword "IN" then looseIdent
      else do
        discard looseIdent
        pure false
    if !storageTold then
      if ← keyword "IN" then discard looseIdent
  expectSymbol "("
  expectKeyword "TYPE"
  discard ident
  if ← symbol "," then
    discard <| separated do
      discard ident
      discard ident
  expectSymbol ")"

/-- An extension, after its keyword. -/
def extensionDefinition : Parse Unit := do
  discard ifNotExists
  discard ident
  if ← keyword "WITH" then do
    discard (afterKeyword? "SCHEMA" ident)
    discard (afterKeyword? "VERSION" ident)
    discard (keyword "CASCADE")

/-- An index, after its keyword. -/
def indexDefinition (inner : Level) : Parse Unit := do
  discard (keyword "CONCURRENTLY")
  let known ← ifNotExists
  let unnamed ← if known then pure false else keyword "ON"
  if !unnamed then do
    discard objectName
    expectKeyword "ON"
  discard objectName
  discard (afterKeyword? "USING" ident)
  discard (parenthesised (orderTerms inner))
  discard (afterKeyword? "INCLUDE" identsInParentheses)
  nullsDistinct
  discard (afterKeyword? "WITH" (exprsInParentheses inner))
  whereClause inner

/-- A schema, after its keyword. -/
def schemaDefinition : Parse Unit := do
  discard ifNotExists
  if ← keyword "AUTHORIZATION" then discard ident
  else do
    discard objectName
    discard (afterKeyword? "AUTHORIZATION" ident)

/-- A database, after its keyword. -/
def databaseDefinition : Parse Unit := do
  discard ifNotExists
  discard objectName
  repeatedly do
    match ← oneOf? ["LOCATION", "MANAGEDLOCATION"] with
    | some _ => do
      discard literalText
      pure true
    | none => pure false

/-- A sequence of numbers, after its keyword. -/
def sequenceDefinition : Parse Unit := do
  discard ifNotExists
  discard objectName
  discard (afterKeyword? "AS" dataType)
  sequenceOptions
  if ← keywords ["OWNED", "BY"] then
    if ← keyword "NONE" then pure () else discard objectName

/-- The parts of a type up to the closing parenthesis, at most the given number. -/
def typeParts : Nat → Parse Unit
  | 0 => pure ()
  | n + 1 => do
    discard ident
    discard dataType
    discard (afterKeyword? "COLLATE" objectName)
    let comma ← symbol ","
    if ← symbol ")" then pure ()
    else if comma then typeParts n
    else expected "',' or ')' after attribute definition"

/-- A type made of parts, after its keyword. -/
def typeDefinition : Parse Unit := do
  discard objectName
  expectKeyword "AS"
  if ← symbol "(" then
    if ← symbol ")" then pure ()
    else do typeParts (← get).length

/-- The labels of an enumeration. -/
def labels : Parse Unit := do
  if ← symbol "(" then do
    identsBefore ")"
    if ← symbol ")" then pure () else expected "')' after CREATE TYPE AS ENUM"
  else expected "'(' after CREATE TYPE AS ENUM"

/-- The words in front of the labels of an enumeration. -/
def enumerationStart : Parse Unit := do
  expectKeyword "TYPE"
  discard objectName
  expectKeywords ["AS", "ENUM"]

/-- The parameters of a procedure up to the closing parenthesis, at most the given number. -/
def procedureParameters : Nat → Parse Unit
  | 0 => pure ()
  | n + 1 => do
    if ← nextIs (fun | .word _ _ _ => true | _ => false) then do
      discard ident
      discard dataType
    let comma ← symbol ","
    if ← symbol ")" then pure ()
    else if comma then procedureParameters n
    else expected "',' or ')' after parameter definition"

/-- Semicolons; tells whether there is one. -/
def semicolons : Parse Bool := fun rest =>
  let more := rest.dropWhile (·.token.isSymbol ";")
  .ok (more.length < rest.length, more)

/-- Statements up to the end or to a closing keyword right behind a statement, at most the given
number; tells how many there are. The flag tells whether a statement stands in front. -/
def statementsWithin (inner : Level) : Nat → Bool → Parse Nat
  | 0, _ => pure 0
  | n + 1, behind => do
    let separated ← semicolons
    match ← peek? with
    | none => pure 0
    | some next =>
      if separated || !behind then do
        discard inner.statement
        (· + 1) <$> statementsWithin inner n true
      else if next.isKeyword "END" then pure 0
      else expected "end of statement"

/-- A procedure, after its keyword. -/
def procedureDefinition (inner : Level) : Parse Unit := do
  discard objectName
  if ← symbol "(" then
    if ← symbol ")" then pure ()
    else do procedureParameters (← get).length
  expectKeywords ["AS", "BEGIN"]
  discard (statementsWithin inner (← get).length false)
  expectKeyword "END"

/-- The definition of an object of a kind that cannot be replaced. -/
def plainDefinition (inner : Level) : Parse Unit := do
  if ← keywords ["UNIQUE", "INDEX"] then indexDefinition inner
  else
    match ← oneOf? ["EXTENSION", "INDEX", "VIRTUAL", "SCHEMA", "DATABASE", "ROLE", "SEQUENCE",
      "TYPE", "PROCEDURE"] with
    | some "EXTENSION" => extensionDefinition
    | some "INDEX" => indexDefinition inner
    | some "VIRTUAL" => virtualTableDefinition
    | some "SCHEMA" => schemaDefinition
    | some "DATABASE" => databaseDefinition
    | some "ROLE" => roleDefinition
    | some "SEQUENCE" => sequenceDefinition
    | some "TYPE" => typeDefinition
    | some _ => procedureDefinition inner
    | none => expected "an object type after CREATE"

/-- The definition of an object, after the words that start a definition. -/
def objectDefinition (inner : Level) : Parse Unit := do
  let replaces ← keywords ["OR", "REPLACE"]
  discard (keywords ["OR", "ALTER"])
  discard (keyword "LOCAL")
  discard (keyword "GLOBAL")
  discard (keyword "TRANSIENT")
  discard (oneOf? ["TEMP", "TEMPORARY"])
  if ← nextIs (·.isKeyword "MACRO") then expected "an object type after CREATE"
  else if ← keywords ["CONSTRAINT", "TRIGGER"] then triggerDefinition inner
  else
    match ← oneOf? ["TABLE", "VIEW", "MATERIALIZED", "POLICY", "EXTERNAL", "FUNCTION", "TRIGGER",
      "SECRET"] with
    | some "TABLE" => tableDefinition inner
    | some "VIEW" => viewDefinition inner
    | some "MATERIALIZED" => do
      expectKeyword "VIEW"
      viewDefinition inner
    | some "POLICY" => policyDefinition inner
    | some "EXTERNAL" => externalTableDefinition inner
    | some "FUNCTION" => functionDefinition inner
    | some "TRIGGER" => triggerDefinition inner
    | some _ => secretDefinition
    | none =>
      if replaces then
        expected "[EXTERNAL] TABLE or [MATERIALIZED] VIEW or FUNCTION after CREATE OR REPLACE"
      else plainDefinition inner

/-- The rest of a statement that defines an object. -/
def creation (inner : Level) : Parse Unit := do
  match ← attempt enumerationStart with
  | some _ => labels
  | none => objectDefinition inner

end EntityQuery.ConditionText.Parse
