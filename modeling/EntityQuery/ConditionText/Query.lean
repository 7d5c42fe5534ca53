import EntityQuery.ConditionText.RowChange

/-!
# Queries

A query is a selection, possibly combined with others, between the queries that it gives names to
and the clauses that hold for the whole. A statement that changes rows may stand in its place and
ends the query.
-/

namespace EntityQuery.ConditionText.Parse

/-- A query that another one gives a name. -/
def namedQuery (inner : Level) : Parse Fragment := do
  let name ← ident
  let columns ← if ← keyword "AS" then pure none
    else do
      let columns ← typedColumns?
      expectKeyword "AS"
      pure columns
  let kept ← if ← keyword "MATERIALIZED" then pure "MATERIALIZED "
    else do
      if ← keywords ["NOT", "MATERIALIZED"] then pure "NOT MATERIALIZED " else pure ""
  expectSymbol "("
  let query ← inner.query
  let close := (← get).head?.map (·.extent)
  expectSymbol ")"
  let source ← afterKeyword? "FROM" ident
  pure (name.fragment ++ Fragment.orNothing (columns.map fun columns => " (" ++ columns ++ ")") ++
    Fragment.words (" AS " ++ kept ++ "(") ++ query ++ ⟨close, ")"⟩ ++
    Fragment.clause " FROM " (source.map Ident.fragment))

/-- The queries that a query gives names to. -/
def namedQueries (inner : Level) : Parse Fragment := do
  match ← take? (·.isKeyword "WITH") with
  | some l => do
    let recursive ← keyword "RECURSIVE"
    let queries ← separated (namedQuery inner)
    pure (⟨some l.extent, if recursive then "WITH RECURSIVE " else "WITH "⟩ ++
      Fragment.listed queries ++ " ")
  | none => pure ""

/-- A query. -/
def query (inner : Level) : Parse Fragment := do
  let names ← namedQueries inner
  if ← keyword "INSERT" then (names ++ ·) <$> insertion inner
  else if ← keyword "UPDATE" then (names ++ ·) <$> update inner
  else do
    let body ← queryBody inner 3 0
    let tail ← queryTail inner
    pure (names ++ body ++ tail.fragment)

end EntityQuery.ConditionText.Parse
