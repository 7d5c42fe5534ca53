import EntityQuery.ConditionText.Operation

/-!
# Clauses of queries

Behind the condition of a selection its rows are grouped, its groups chosen and its windows
described. Behind a whole query its rows are sorted and counted, locked, or written in another
format. The clauses come in a fixed order; only the greatest number of rows and the number left out
come in any order.

Query text is the end of a query, so what its own clauses say is kept. Of all clauses the place and
the spelling are kept, which is all that counts where a query stands inside an expression.
-/

namespace EntityQuery.ConditionText

/-- What stands behind the condition of a selection. -/
structure SelectTail where
  /-- Whether rows are grouped, or groups chosen. -/
  grouped : Bool
  /-- Whether there are further clauses. -/
  further : Bool
  /-- The clauses as a part of the text. -/
  fragment : Fragment

/-- What stands behind a selection or a combination of selections. -/
structure QueryTail where
  order : Option (List OrderTerm)
  limit : Option Expr
  offset : Option Expr
  /-- Whether there are further clauses. -/
  further : Bool
  /-- The clauses as a part of the text. -/
  fragment : Fragment

namespace Parse

/-- Expressions in parentheses; the parentheses may be left out around a single one if the flag
says so. -/
def tuple (inner : Level) (single : Bool) : Parse (List Expr) := do
  if ← symbol "(" then
    if ← symbol ")" then pure []
    else inner.exprs <* expectSymbol ")"
  else if single then List.singleton <$> inner.expr
  else expected "("

/-- Sets of expressions in parentheses behind their keyword. A set that may be a single expression
is spelled without parentheses if it is one. -/
def groupSets (inner : Level) (word : String) (single : Bool) : Parse Fragment := do
  let sets ← parenthesised (separated (tuple inner single))
  let spelled (set : List Expr) : Fragment :=
    if single && set.length = 1 then Expr.listed set else "(" ++ Expr.listed set ++ ")"
  pure (Fragment.words (word ++ " (") ++ Fragment.listed (sets.map spelled) ++ ")")

/-- The parentheses of an empty tuple, if they come next. -/
def emptyTuple : Parse Bool := fun rest =>
  match rest with
  | ⟨.symbol "(", _⟩ :: ⟨.symbol ")", _⟩ :: more => .ok (true, more)
  | _ => .ok (false, rest)

/-- A key that rows are grouped by. -/
def groupKey (inner : Level) : Parse Fragment := do
  if ← keywords ["GROUPING", "SETS"] then groupSets inner "GROUPING SETS" false
  else
    match ← oneOf? ["CUBE", "ROLLUP"] with
    | some word => groupSets inner word true
    | none => if ← emptyTuple then pure "()" else Expr.fragment <$> inner.expr

/-- The keys that rows are grouped by, if there are any. -/
def groupClause? (inner : Level) : Parse (Option Fragment) :=
  afterKeywords? ["GROUP", "BY"] do
    if ← keyword "ALL" then pure "ALL" else Fragment.listed <$> separated (groupKey inner)

/-- The expressions behind two keywords, if these come next. -/
def exprsAfter? (inner : Level) (keys : List String) : Parse (Option Fragment) :=
  afterKeywords? keys (Expr.listed <$> inner.exprs)

/-- A window with its name. Only the name has a place. -/
def namedWindow (inner : Level) : Parse Fragment := do
  let name ← ident
  expectKeyword "AS"
  expectSymbol "("
  let spec ← windowSpec inner
  pure (name.fragment ++ Fragment.words (" AS (" ++ spec ++ ")"))

/-- Windows with their names, if they come next. -/
def windows? (inner : Level) : Parse (Option Fragment) :=
  afterKeyword? "WINDOW" (Fragment.listed <$> separated (namedWindow inner))

/-- What stands behind the condition of a selection. -/
def selectTail (inner : Level) : Parse SelectTail := do
  let group ← groupClause? inner
  let cluster ← exprsAfter? inner ["CLUSTER", "BY"]
  let distribute ← exprsAfter? inner ["DISTRIBUTE", "BY"]
  let sort ← exprsAfter? inner ["SORT", "BY"]
  let having ← afterKeyword? "HAVING" (Expr.fragment <$> inner.expr)
  let windowsFirst ← windows? inner
  let qualify ← afterKeyword? "QUALIFY" (Expr.fragment <$> inner.expr)
  let windowsLast ← if windowsFirst.isNone && qualify.isSome then windows? inner else pure none
  pure
    { grouped := group.isSome || having.isSome
      further := [cluster, distribute, sort, windowsFirst, qualify].any Option.isSome
      fragment := Fragment.clause " GROUP BY " group ++ Fragment.clause " CLUSTER BY " cluster ++
        Fragment.clause " DISTRIBUTE BY " distribute ++ Fragment.clause " SORT BY " sort ++
        Fragment.clause " HAVING " having ++ Fragment.clause " WINDOW " windowsFirst ++
        Fragment.clause " QUALIFY " qualify ++ Fragment.clause " WINDOW " windowsLast }

/-- The greatest number of rows, if one is given; all rows are no number. -/
def limitClause (inner : Level) (known : Option Expr) : Parse (Option Expr) := do
  match known with
  | some e => pure (some e)
  | none =>
    if ← keyword "LIMIT" then
      if ← keyword "ALL" then pure none else some <$> inner.expr
    else pure none

/-- The number of rows left out in front, with the word behind it, if it is given. -/
def offsetClause (inner : Level) (known : Option (Expr × String)) :
    Parse (Option (Expr × String)) := do
  match known with
  | some e => pure (some e)
  | none =>
    afterKeyword? "OFFSET" do
      let e ← inner.expr
      let unit ← oneOf? ["ROW", "ROWS"]
      pure (e, (unit.map (" " ++ ·)).getD "")

/-- How many rows are fetched, after the keyword, as it is written. -/
def fetchClause : Parse String := do
  discard (expectOneOf ["FIRST", "NEXT"])
  let amount ← match ← oneOf? ["ROW", "ROWS"] with
    | some _ => pure ""
    | none => do
      let amount ← constant
      let percent ← keyword "PERCENT"
      discard (expectOneOf ["ROW", "ROWS"])
      pure (" " ++ amount.text ++ if percent then " PERCENT" else "")
  let start := " FETCH FIRST" ++ amount ++ " ROWS"
  if ← keyword "ONLY" then pure (start ++ " ONLY")
  else if ← keywords ["WITH", "TIES"] then pure (start ++ " WITH TIES")
  else expected "one of ONLY or WITH TIES"

/-- A name of an element in parentheses, as it is written. -/
def elementName : Parse String := do
  let name ← parenthesised literalText
  pure ("('" ++ name ++ "')")

/-- An option behind a format: one of some words, or no known word at all. -/
def formatOption (words : List String) : Parse (Option (String × String)) :=
  afterSymbol? "," do
    match ← oneOf? words with
    | some "ROOT" => do
      let name ← elementName
      pure ("ROOT", ", ROOT" ++ name)
    | some "BINARY" => do
      expectKeyword "BASE64"
      pure ("BINARY", ", BINARY BASE64")
    | some word => pure (word, ", " ++ word)
    | none => pure ("", "")

/-- The options behind a format, as they are written: each once, in the order of the words. -/
def formatOptions (words : List String) : Parse String := do
  let options ← whileSome (formatOption words)
  pure (String.join (words.map fun word => (options.reverse.lookup word).getD ""))

/-- What the result is locked for or written as, after the keyword, as it is written; and whether it
is a lock. -/
def forClause : Parse (String × Bool) := do
  match ← oneOf? ["XML", "JSON", "BROWSE"] with
  | some "XML" => do
    match ← oneOf? ["RAW", "AUTO", "EXPLICIT", "PATH"] with
    | some style => do
      let named := style == "RAW" || style == "PATH"
      let name ← if named && (← nextIs (·.isSymbol "(")) then elementName else pure ""
      let options ← formatOptions ["BINARY", "TYPE", "ROOT", "ELEMENTS"]
      pure (" FOR XML " ++ style ++ name ++ options, false)
    | none => fail (.expected "Expected FOR XML [RAW | AUTO | EXPLICIT | PATH ]" none)
  | some "JSON" => do
    match ← oneOf? ["AUTO", "PATH"] with
    | some style => do
      let options ← formatOptions ["ROOT", "INCLUDE_NULL_VALUES", "WITHOUT_ARRAY_WRAPPER"]
      pure (" FOR JSON " ++ style ++ options, false)
    | none => fail (.expected "Expected FOR JSON [AUTO | PATH ]" none)
  | some _ => pure (" FOR BROWSE", false)
  | none => do
    let lock ← expectOneOf ["UPDATE", "SHARE"]
    let table ← afterKeyword? "OF" objectName
    let otherwise ← if ← keyword "NOWAIT" then pure " NOWAIT"
      else do
        if ← keywords ["SKIP", "LOCKED"] then pure " SKIP LOCKED" else pure ""
    pure (" FOR " ++ lock ++ (Fragment.clause " OF " (table.map dottedFragment)).text ++ otherwise,
      true)

/-- Locks, up to a result in another format, at most the given number. -/
def forClauses : Nat → Parse (List String)
  | 0 => pure []
  | n + 1 => do
    if ← keyword "FOR" then do
      let (clause, isLock) ← forClause
      if isLock then (clause :: ·) <$> forClauses n else pure [clause]
    else pure []

/-- What stands behind a selection or a combination of selections. -/
def queryTail (inner : Level) : Parse QueryTail := do
  let order ← orderClause? inner
  let limit ← limitClause inner none
  let offset ← offsetClause inner none
  let limit ← limitClause inner limit
  let offset ← offsetClause inner offset
  let fetch ← afterKeyword? "FETCH" fetchClause
  let others ← forClauses (← get).length
  let skipped := offset.map fun (e, unit) => e.fragment ++ Fragment.words unit
  pure
    { order, limit, offset := offset.map (·.1)
      further := fetch.isSome || !others.isEmpty
      fragment := Fragment.clause " ORDER BY " (order.map OrderTerm.listed) ++
        Fragment.clause " LIMIT " (limit.map Expr.fragment) ++
        Fragment.clause " OFFSET " skipped ++
        Fragment.words (fetch.getD "" ++ String.join others) }

/-- The name that something is given, if it is: a word that says so is followed by any name,
otherwise the name is none of some keywords. -/
def alias? (reserved : List String) : Parse (Option Ident) := do
  let isName (t : Token) : Bool := (Lexeme.ident? ⟨t, default⟩).isSome
  if ← keyword "AS" then do
    match ← take? isName with
    | some l => pure l.ident?
    | none => expected "an identifier after AS"
  else do
    let name ← take? fun t => isName t && !t.isOneOf reserved
    pure (name.bind Lexeme.ident?)

end Parse

end EntityQuery.ConditionText
