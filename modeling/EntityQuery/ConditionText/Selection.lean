import EntityQuery.ConditionText.Relation

/-!
# Selections

A selection gives back columns of the rows of some tables. Several selections are combined by
operations on their rows, which group to the left; an intersection binds tighter than the others. A
combination may hold rows of values, the rows of a table and queries in parentheses in place of
selections.
-/

namespace EntityQuery.ConditionText

/-- Whether an expression is a bare name that is the word in front of tables. -/
def Expr.isFromWord : Expr → Bool
  | ident name => name.quote.isNone && Unicode.lower name.value == "from"
  | _ => false

namespace Parse

/-- A column of a selection. -/
def selectItem (inner : Level) : Parse Fragment := do
  match ← wildcard? with
  | some wildcard => pure wildcard.wholeFragment
  | none => do
    let e ← inner.expr
    if e.isFromWord then fail (.expected ("Expected an expression, found: " ++ e.text) (← place))
    else do
      let name ← alias? noColumnAlias
      pure (e.fragment ++ Fragment.clause " AS " (name.map Ident.fragment))

/-- One or more columns of a selection. -/
def selectItems (inner : Level) : Parse Fragment :=
  Fragment.listed <$> separated (selectItem inner)

/-- Whether equal rows are dropped, as it is written. -/
def distinctClause (inner : Level) : Parse String := do
  let place ← place
  let all ← keyword "ALL"
  if ← keyword "DISTINCT" then
    if all then fail (.expected "Cannot specify both ALL and DISTINCT" place)
    else if ← keyword "ON" then do
      expectSymbol "("
      if ← symbol ")" then pure " DISTINCT ON ()"
      else do
        let es ← inner.exprs
        expectSymbol ")"
        pure (" DISTINCT ON (" ++ (Expr.listed es).text ++ ")")
    else pure " DISTINCT"
  else pure ""

/-- How many rows are taken from the top, as it is written. -/
def topClause (inner : Level) : Parse String := do
  if ← keyword "TOP" then do
    let amount ← if ← symbol "(" then do
        let e ← inner.expr
        expectSymbol ")"
        pure ("(" ++ e.text ++ ")")
      else toString <$> literalNat
    let percent ← keyword "PERCENT"
    let ties ← keywords ["WITH", "TIES"]
    pure (" TOP " ++ amount ++ (if percent then " PERCENT" else "") ++
      if ties then " WITH TIES" else "")
  else pure ""

/-- The table that rows are put into. -/
def intoClause : Parse Fragment := do
  if ← keyword "INTO" then do
    let temporary ← oneOf? ["TEMP", "TEMPORARY"]
    let unlogged ← keyword "UNLOGGED"
    let table ← keyword "TABLE"
    let name ← objectName
    pure (Fragment.words (" INTO" ++ (if temporary.isSome then " TEMPORARY" else "") ++
      (if unlogged then " UNLOGGED" else "") ++ (if table then " TABLE" else "") ++ " ") ++
      dottedFragment name)
  else pure ""

/-- The keywords that are no alias of a column of a lateral view. -/
def noViewAlias : List String := ["WHERE", "GROUP", "CLUSTER", "HAVING", "LATERAL"]

/-- A view that is computed from each row, if one follows. -/
def lateralView? (inner : Level) : Parse (Option Fragment) :=
  afterKeywords? ["LATERAL", "VIEW"] do
    let outer ← keyword "OUTER"
    let e ← inner.expr
    let name ← objectName
    let names ← separated (alias? noViewAlias)
    let columns := names.filterMap id
    let labels := if columns.isEmpty then none else some (listedNames columns)
    pure ((if outer then " LATERAL VIEW OUTER " else " LATERAL VIEW ") ++ e.fragment ++ " " ++
      dottedFragment name ++ Fragment.clause " AS " labels)

/-- A selection, after its keyword. -/
def selection (inner : Level) : Parse Fragment := do
  let distinct ← distinctClause inner
  let top ← topClause inner
  let items ← selectItems inner
  let target ← intoClause
  let sources ← afterKeyword? "FROM" (Fragment.listed <$> separated (tables inner))
  let views ← whileSome (lateralView? inner)
  let condition ← afterKeyword? "WHERE" inner.expr
  let tail ← selectTail inner
  pure (Fragment.words ("SELECT" ++ distinct ++ top ++ " ") ++ items ++ target ++
    Fragment.clause " FROM " sources ++ Fragment.joined "" views ++
    Fragment.clause " WHERE " (condition.map Expr.fragment) ++ tail.fragment)

/-- Rows of values, after the keyword. If one row says that it is one, all are spelled so. -/
def valueRows (inner : Level) : Parse Fragment := do
  let rows ← separated do
    let marked ← keyword "ROW"
    let values ← parenthesised inner.exprs
    pure (marked, values)
  let start := if rows.any (·.1) then "ROW(" else "("
  let lists := rows.map fun (_, values) => start ++ Expr.listed values ++ ")"
  pure ("VALUES " ++ Fragment.listed lists)

/-- The word that a lexeme has to be. -/
def wordOf (what : String) : Option Lexeme → Except Failure String
  | some ⟨.word value _ _, _⟩ => .ok value
  | l => .error (.expected what (l.map (·.extent.first)))

/-- The name of a table whose rows are a query, after the keyword. Three tokens are used up, whether
the name has two parts or one. -/
def wholeTable : Parse Fragment := fun rest => do
  let name ← if rest[1]?.any (·.token.isSymbol ".") then do
      let schema ← wordOf "Schema name" rest[0]?
      let table ← wordOf "Table name" rest[2]?
      pure (schema ++ "." ++ table)
    else wordOf "Table name" rest[0]?
  pure (Fragment.words ("TABLE " ++ name), rest.drop 3)

/-- A query without what it is combined with. -/
def simpleQuery (inner : Level) : Parse Fragment := do
  match ← take? (·.isKeyword "SELECT") with
  | some l => do
    let selection ← selection inner
    pure ⟨Span.union (some l.extent) selection.span, selection.text⟩
  | none =>
    if ← symbol "(" then do
      let query ← inner.query
      expectSymbol ")"
      pure ("(" ++ query ++ ")")
    else if ← keyword "VALUES" then valueRows inner
    else if ← keyword "TABLE" then wholeTable
    else expected "SELECT, VALUES, or a subquery in the query body"

/-- The operation that combines the query so far with the next one, and how tight it binds. -/
def setOperator? : List Lexeme → Option (String × Nat)
  | [] => none
  | l :: _ =>
    match l.token with
    | .word _ false "UNION" => some ("UNION", 10)
    | .word _ false "EXCEPT" => some ("EXCEPT", 10)
    | .word _ false "INTERSECT" => some ("INTERSECT", 20)
    | _ => none

/-- What is done with equal rows when queries are combined, as it is written. -/
def setQuantifier : Parse String := do
  if ← keywords ["DISTINCT", "BY", "NAME"] then pure " DISTINCT BY NAME"
  else if ← keywords ["BY", "NAME"] then pure " BY NAME"
  else if ← keyword "ALL" then
    pure (if ← keywords ["BY", "NAME"] then " ALL BY NAME" else " ALL")
  else pure (if ← keyword "DISTINCT" then " DISTINCT" else "")

/-- The queries that a query is combined with, at most the given number; tells whether there is
one. -/
def combinations (body : Nat → Parse Fragment) (rank : Nat) :
    Nat → Fragment → Parse (Fragment × Bool)
  | 0, left => pure (left, false)
  | n + 1, left => fun rest =>
    match setOperator? rest with
    | none => .ok ((left, false), rest)
    | some (word, next) =>
      if next ≤ rank then .ok ((left, false), rest)
      else
        (do
          let quantifier ← setQuantifier
          let right ← body next
          let whole := left ++ Fragment.words (" " ++ word ++ quantifier ++ " ") ++ right
          let (all, _) ← combinations body rank n whole
          pure (all, true) : Parse (Fragment × Bool)) (rest.drop 1)

/-- A query with the queries it is combined with by operations that bind tighter than the given
rank; the number bounds how often this changes the rank. -/
def queryBody (inner : Level) : Nat → Nat → Parse Fragment
  | 0, _ => expected "SELECT, VALUES, or a subquery in the query body"
  | n + 1, rank => do
    let first ← simpleQuery inner
    let (all, _) ← combinations (queryBody inner n) rank (← get).length first
    pure all

end Parse

end EntityQuery.ConditionText
