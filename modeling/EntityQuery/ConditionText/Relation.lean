import EntityQuery.ConditionText.Clause

/-!
# Tables of queries

What the rows of a query are taken from: tables by their names, queries in parentheses, functions
that give rows, and joins of these. A parenthesis starts a query where it can be read as one with
everything behind it that belongs to it, and tables that are joined otherwise; a single table stands
in no parentheses.

Only names have a place: not the arguments of a function that is a table, not the hints on how a
table is read, and nothing of a table that is made from JSON.
-/

namespace EntityQuery.ConditionText

/-- Tables that rows are taken from. -/
structure Relation where
  fragment : Fragment
  /-- Whether several tables are joined. -/
  isJoin : Bool

namespace Parse

/-- Takes a keyword with the opening parenthesis behind it, if both come next. -/
def callOf (key : String) : Parse Bool := fun rest =>
  match rest with
  | ⟨word, _⟩ :: ⟨.symbol "(", _⟩ :: more =>
    if word.isKeyword key then .ok (true, more) else .ok (false, rest)
  | _ => .ok (false, rest)

/-- The name of a column, possibly with its type, which has no place. -/
def typedColumn : Parse Fragment := do
  let name ← ident
  let type ← attempt dataType
  pure (name.fragment ++ Fragment.clause " " (type.map (Fragment.words ·.text)))

/-- Names of columns with their types, in parentheses. -/
def typedColumns? : Parse (Option Fragment) :=
  afterSymbol? "(" (Fragment.listed <$> separated typedColumn <* expectSymbol ")")

/-- The name that a table is given, possibly with names of its columns. -/
def tableAlias : Parse Fragment := do
  match ← alias? noTableAlias with
  | none => pure ""
  | some name => do
    let columns ← typedColumns?
    pure (name.fragment.after " AS " ++
      Fragment.orNothing (columns.map fun columns => " (" ++ columns ++ ")"))

/-- Something that may be given a name after its keyword. -/
def withName (e : Fragment) : Parse Fragment := do
  let name ← afterKeyword? "AS" ident
  pure (e ++ Fragment.clause " AS " (name.map Ident.fragment))

/-- An aggregation over the rows that become a column. The name of its function has no place. -/
def pivotedAggregate (inner : Level) : Parse Fragment := do
  match ← take? fun _ => true with
  | some ⟨.word value _ _, _⟩ => do
    let call ← call inner [⟨value, none, none⟩]
    withName call
  | _ => expected "a function identifier"

/-- The values that become columns. -/
def pivotedValues (inner : Level) : Parse Fragment := do
  if ← keyword "ANY" then do
    let order ← orderClause? inner
    pure ("ANY" ++ Fragment.clause " ORDER BY " (order.map OrderTerm.listed))
  else if ← nextIsQuery then inner.query
  else Fragment.listed <$> separated do
    let e ← inner.expr
    withName e.fragment

/-- A table whose rows become columns, after the keyword. -/
def pivot (inner : Level) (table : Fragment) : Parse Fragment := do
  expectSymbol "("
  let aggregates ← separated (pivotedAggregate inner)
  expectKeyword "FOR"
  let column ← objectName
  expectKeyword "IN"
  let values ← parenthesised (pivotedValues inner)
  let default ← afterKeywords? ["DEFAULT", "ON", "NULL"] (parenthesised inner.expr)
  expectSymbol ")"
  let name ← tableAlias
  pure (table ++ " PIVOT(" ++ Fragment.listed aggregates ++ " FOR " ++ dottedFragment column ++
    " IN (" ++ values ++ ")" ++
    Fragment.orNothing (default.map fun e => " DEFAULT ON NULL (" ++ e.fragment ++ ")") ++ ")" ++
    name)

/-- A table whose columns become rows, after the keyword. -/
def unpivot (table : Fragment) : Parse Fragment := do
  expectSymbol "("
  let value ← ident
  expectKeyword "FOR"
  let name ← ident
  expectKeyword "IN"
  let columns ← columnList
  expectSymbol ")"
  let label ← tableAlias
  pure (table ++ " UNPIVOT(" ++ value.fragment ++ " FOR " ++ name.fragment ++ " IN (" ++
    listedNames columns ++ "))" ++ label)

/-- A table with what turns its rows into columns or its columns into rows, at most the given
number. -/
def pivots (inner : Level) : Nat → Fragment → Parse Fragment
  | 0, table => pure table
  | n + 1, table => do
    match ← oneOf? ["PIVOT", "UNPIVOT"] with
    | some "PIVOT" => pivot inner table >>= pivots inner n
    | some _ => unpivot table >>= pivots inner n
    | none => pure table

/-- What is done where a column of a table made from JSON cannot be filled, as it is written. -/
def jsonFallback? : Parse (Option String) := do
  match ← oneOf? ["NULL", "ERROR", "DEFAULT"] with
  | some word => do
    let value ← if word = "DEFAULT" then (" " ++ ·.text) <$> constant else pure ""
    expectKeyword "ON"
    if ← keyword "EMPTY" then pure (some (word ++ value ++ " ON EMPTY"))
    else do
      expectKeyword "ERROR"
      pure (some (word ++ value ++ " ON ERROR"))
  | none => pure none

/-- The last one of some texts with an ending, with a blank in front. -/
def lastEnding (ending : String) (texts : List String) : String :=
  ((texts.reverse.find? (·.endsWith ending)).map (" " ++ ·)).getD ""

/-- A column of a table made from JSON, as it is written; the number bounds how deeply columns are
nested. -/
def jsonColumn : Nat → Parse String
  | 0 => expected "identifier"
  | n + 1 => do
    if ← keyword "NESTED" then do
      discard (keyword "PATH")
      let path ← constant
      expectKeyword "COLUMNS"
      let columns ← parenthesised (separated (jsonColumn n))
      pure ("NESTED PATH " ++ path.text ++ " COLUMNS (" ++ ", ".intercalate columns ++ ")")
    else do
      let name ← ident
      if ← keyword "FOR" then do
        expectKeyword "ORDINALITY"
        pure (name.text ++ " FOR ORDINALITY")
      else do
        let type ← dataType
        let tested ← keyword "EXISTS"
        expectKeyword "PATH"
        let path ← constant
        let fallbacks ← whileSome jsonFallback?
        pure (name.text ++ " " ++ type.text ++ (if tested then " EXISTS" else "") ++ " PATH " ++
          path.text ++ lastEnding " ON EMPTY" fallbacks ++ lastEnding " ON ERROR" fallbacks)

/-- A table made from JSON with columns that are told by paths, after its opening parenthesis. -/
def jsonTable (inner : Level) : Parse Fragment := do
  let json ← inner.expr
  expectSymbol ","
  let path ← constant
  expectKeyword "COLUMNS"
  expectSymbol "("
  let columns ← separated (jsonColumn (← get).length)
  expectSymbol ")"
  expectSymbol ")"
  let name ← tableAlias
  pure (Fragment.words ("JSON_TABLE(" ++ json.text ++ ", " ++ path.text ++ " COLUMNS(" ++
    ", ".intercalate columns ++ "))" ++ name.text))

/-- A column of an opened JSON text, as it is written. -/
def openedColumn : Parse String := do
  let name ← ident
  let type ← dataType
  let path ← take? fun | .quotation .plain _ => true | _ => false
  let asJson ← keyword "AS"
  if asJson then expectKeyword "JSON"
  let spelled := match path with
    | some ⟨.quotation _ value, _⟩ => " " ++ between '\'' value
    | _ => ""
  pure (name.text ++ " " ++ type.text ++ spelled ++ if asJson then " AS JSON" else "")

/-- A table that is an opened JSON text, after its opening parenthesis. -/
def openedJson (inner : Level) : Parse Fragment := do
  let json ← inner.expr
  let path ← afterSymbol? "," constant
  expectSymbol ")"
  let columns ← afterKeyword? "WITH" (parenthesised (separated openedColumn))
  let name ← tableAlias
  pure (Fragment.words ("OPENJSON(" ++ json.text ++ ((path.map (", " ++ ·.text)).getD "") ++ ")" ++
    ((columns.map fun columns => " WITH (" ++ ", ".intercalate columns ++ ")").getD "") ++
    name.text))

/-- Whether the rows of a table are counted, as it is written. -/
def ordinality : Parse Fragment := do
  pure (if ← keywords ["WITH", "ORDINALITY"] then " WITH ORDINALITY" else "")

/-- A column for the positions of the elements of arrays. The first of its two keywords is used up
even if the other one does not follow. -/
def positionColumn : Parse Fragment := do
  if ← keyword "WITH" then
    if ← keyword "OFFSET" then do
      let name ← alias? noColumnAlias
      pure (" WITH OFFSET" ++ Fragment.clause " AS " (name.map Ident.fragment))
    else pure ""
  else pure ""

/-- The elements of arrays as rows, after the keyword. -/
def unnested (inner : Level) : Parse Fragment := do
  let arrays ← parenthesised inner.exprs
  let counted ← ordinality
  let name ← tableAlias
  let positions ← positionColumn
  pure ("UNNEST(" ++ Expr.listed arrays ++ ")" ++ counted ++ name ++ positions)

/-- The arguments of a function that gives rows, after its opening parenthesis. -/
def tableArguments (inner : Level) : Parse Fragment := do
  if ← symbol ")" then pure ""
  else Fragment.listed <$> separated (argument inner) <* expectSymbol ")"

/-- Hints on how a table is read. What starts like hints without being any stays where it is. -/
def tableHints (inner : Level) : Parse Fragment := do
  if ← callOf "WITH" then do
    let hints ← inner.exprs
    expectSymbol ")"
    pure (Fragment.unplaced (" WITH (" ++ Expr.listed hints ++ ")"))
  else pure ""

/-- A table by its name, or a function that gives rows. -/
def namedTable (inner : Level) : Parse Fragment := do
  let name ← objectName
  let arguments ← afterSymbol? "(" (tableArguments inner)
  let counted ← ordinality
  let label ← tableAlias
  let hints ← tableHints inner
  let spelled := arguments.map fun arguments => Fragment.unplaced ("(" ++ arguments ++ ")")
  let table := dottedFragment name ++ Fragment.orNothing spelled ++ counted ++ label ++ hints
  pivots inner (← get).length table

/-- A query that is a table, after its opening parenthesis. -/
def derivedTable (inner : Level) : Parse Fragment := do
  let query ← inner.query
  expectSymbol ")"
  let name ← tableAlias
  pure ("(" ++ query ++ ")" ++ name)

/-- What may look at the tables in front of it, after the keyword: a query or a function. -/
def lateralTable (inner : Level) : Parse Fragment := do
  if ← symbol "(" then (·.after "LATERAL ") <$> derivedTable inner
  else do
    let name ← objectName
    expectSymbol "("
    let arguments ← tableArguments inner
    let label ← tableAlias
    pure ("LATERAL " ++ dottedFragment name ++ "(" ++ arguments ++ ")" ++ label)

/-- A function that gives rows, in parentheses, after the keyword. -/
def functionTable (inner : Level) : Parse Fragment := do
  let e ← parenthesised inner.expr
  let name ← tableAlias
  pure ("TABLE(" ++ e.fragment ++ ")" ++ name)

/-- How the rows of two tables are matched. -/
def joinConstraint (inner : Level) (natural : Bool) : Parse Fragment := do
  if natural then pure ""
  else if ← keyword "ON" then do
    let condition ← inner.expr
    pure (" ON " ++ condition.fragment)
  else if ← keyword "USING" then do
    let columns ← columnList
    pure (" USING(" ++ listedNames columns ++ ")")
  else pure ""

/-- The words of a join with a constraint, as they are spelled; nothing if no join follows. -/
def joinWords? (natural : Bool) : Parse (Option String) := do
  match ← oneOf? ["JOIN", "INNER", "FULL", "ANTI", "SEMI", "LEFT", "RIGHT"] with
  | some "JOIN" => pure (some "JOIN ")
  | some "INNER" => do
    expectKeyword "JOIN"
    pure (some "JOIN ")
  | some "FULL" => do
    discard (keyword "OUTER")
    expectKeyword "JOIN"
    pure (some "FULL JOIN ")
  | some "ANTI" => do
    expectKeyword "JOIN"
    pure (some "ANTI JOIN ")
  | some "SEMI" => do
    expectKeyword "JOIN"
    pure (some "SEMI JOIN ")
  | some side => do
    match ← oneOf? ["JOIN", "OUTER", "SEMI", "ANTI"] with
    | some "JOIN" => pure (some (side ++ " JOIN "))
    | some kind => do
      expectKeyword "JOIN"
      pure (some (side ++ (if kind = "OUTER" then " " else " " ++ kind ++ " ") ++ "JOIN "))
    | none => fail (.expected ("expected OUTER, SEMI, ANTI or JOIN after " ++ side) none)
  | none =>
    if ← nextIs (·.isKeyword "OUTER") then expected "LEFT, RIGHT, or FULL"
    else if natural then expected "a join type after NATURAL"
    else pure none

/-- Another table that is joined, if one follows. The word for all nodes is taken even where no join
follows. -/
def join? (inner : Level) (table : Parse Relation) : Parse (Option Fragment) := do
  let start := if ← keyword "GLOBAL" then " GLOBAL " else " "
  let joined (words : String) : Parse Fragment := do
    let right ← table
    pure (Fragment.words (start ++ words) ++ right.fragment)
  if ← keyword "CROSS" then do
    match ← oneOf? ["JOIN", "APPLY"] with
    | some kind => some <$> joined ("CROSS " ++ kind ++ " ")
    | none => expected "JOIN or APPLY after CROSS"
  else if ← keyword "OUTER" then do
    expectKeyword "APPLY"
    some <$> joined "OUTER APPLY "
  else if ← keyword "ASOF" then do
    expectKeyword "JOIN"
    let right ← joined "ASOF JOIN "
    expectKeyword "MATCH_CONDITION"
    let condition ← parenthesised inner.expr
    let constraint ← joinConstraint inner false
    pure (some (right ++ " MATCH_CONDITION (" ++ condition.fragment ++ ")" ++ constraint))
  else do
    let natural ← keyword "NATURAL"
    match ← joinWords? natural with
    | none => pure none
    | some words => do
      let right ← joined ((if natural then "NATURAL " else "") ++ words)
      let constraint ← joinConstraint inner natural
      pure (some (right ++ constraint))

/-- A table with the tables joined to it. -/
def joins (inner : Level) (table : Parse Relation) : Parse Relation := do
  let first ← table
  let others ← whileSome (join? inner table)
  pure ⟨Fragment.joined "" (first.fragment :: others), first.isJoin || !others.isEmpty⟩

/-- A table. The number bounds the parentheses around joined tables. -/
def tableWithin (inner : Level) : Nat → Parse Relation
  | 0 => expected "identifier"
  | n + 1 => do
    if ← keyword "LATERAL" then (⟨·, false⟩) <$> lateralTable inner
    else if ← keyword "TABLE" then (⟨·, false⟩) <$> functionTable inner
    else if ← symbol "(" then do
      match ← attempt (derivedTable inner) with
      | some table => do
        let table ← pivots inner (← get).length table
        pure ⟨table, false⟩
      | none => do
        let tables ← joins inner (tableWithin inner n)
        if tables.isJoin then do
          expectSymbol ")"
          let name ← tableAlias
          pure ⟨"(" ++ tables.fragment ++ ")" ++ name, true⟩
        else expected "joined table"
    else if ← keyword "UNNEST" then (⟨·, false⟩) <$> unnested inner
    else if ← callOf "JSON_TABLE" then (⟨·, false⟩) <$> jsonTable inner
    else if ← callOf "OPENJSON" then (⟨·, false⟩) <$> openedJson inner
    else (⟨·, false⟩) <$> namedTable inner

/-- A table. -/
def table (inner : Level) : Parse Relation := fun rest => tableWithin inner (rest.length + 1) rest

/-- A table with the tables joined to it. -/
def tables (inner : Level) : Parse Fragment := Relation.fragment <$> joins inner (table inner)

end Parse

end EntityQuery.ConditionText
