import EntityQuery.ConditionText.TimeSpan

/-!
# Function calls

What stands inside something is read by the level of nesting below it; a `Level` holds the readings
that the parts of an expression may use. Calls of functions with everything that may follow their
arguments are read here. Of what follows the arguments only the condition of a filter has a place.
-/

namespace EntityQuery.ConditionText

/-- The kinds of statements that are told apart: an explanation cannot be explained again. -/
inductive StatementKind where
  | explanation | plain
  deriving DecidableEq, Repr

/-- What is read one level of nesting further in. -/
structure Level where
  /-- An expression in which all operators outside parentheses bind tighter than the given
  strength. -/
  tighter : Nat → Parse Expr
  query : Parse Fragment
  statement : Parse StatementKind

namespace Level

/-- Any expression. -/
def expr (inner : Level) : Parse Expr := inner.tighter 0

/-- One or more expressions between commas. -/
def exprs (inner : Level) : Parse (List Expr) := Parse.separated inner.expr

end Level

/-- A key that rows are sorted by. -/
structure OrderTerm where
  key : Expr
  /-- Whether the order is ascending, if it says so. -/
  ascending : Option Bool
  /-- Whether nulls come first, if it says so. -/
  nullsFirst : Option Bool

namespace OrderTerm

/-- The sort key as a part of the text. -/
def fragment (t : OrderTerm) : Fragment :=
  let direction := match t.ascending with
    | some true => " ASC"
    | some false => " DESC"
    | none => ""
  let nulls := match t.nullsFirst with
    | some true => " NULLS FIRST"
    | some false => " NULLS LAST"
    | none => ""
  t.key.fragment ++ Fragment.words (direction ++ nulls)

/-- Sort keys as a part of the text. -/
def listed (terms : List OrderTerm) : Fragment := Fragment.listed (terms.map fragment)

end OrderTerm

namespace Parse

/-- A sort key with its direction. -/
def orderTerm (inner : Level) : Parse OrderTerm := do
  let key ← inner.expr
  let ascending ← match ← oneOf? ["ASC", "DESC"] with
    | some word => pure (some (word == "ASC"))
    | none => pure none
  let nullsFirst ← if ← keywords ["NULLS", "FIRST"] then pure (some true)
    else do
      if ← keywords ["NULLS", "LAST"] then pure (some false) else pure none
  pure ⟨key, ascending, nullsFirst⟩

/-- One or more sort keys. -/
def orderTerms (inner : Level) : Parse (List OrderTerm) := separated (orderTerm inner)

/-- The sort keys behind `ORDER BY`, if it comes next. -/
def orderClause? (inner : Level) : Parse (Option (List OrderTerm)) :=
  afterKeywords? ["ORDER", "BY"] (orderTerms inner)

/-- A subquery in parentheses. -/
def subquery (inner : Level) : Parse Fragment := do
  let query ← parenthesised inner.query
  pure ("(" ++ query ++ ")")

/-- Whether a subquery comes next. -/
def nextIsQuery : Parse Bool := nextIs (·.isOneOf ["SELECT", "WITH"])

/-- A bound of a window frame, as it is written. A text is the amount of a span of time here. -/
def frameBound (inner : Level) : Parse String := do
  if ← keywords ["CURRENT", "ROW"] then pure "CURRENT ROW"
  else do
    let amount ← if ← keyword "UNBOUNDED" then pure "UNBOUNDED"
      else do
        if ← nextIs fun | .quotation .plain _ => true | _ => false then
          Expr.text <$> timeSpan (constant >>= fun c => collated (.constant c))
        else Expr.text <$> inner.expr
    match ← oneOf? ["PRECEDING", "FOLLOWING"] with
    | some side => pure (amount ++ " " ++ side)
    | none => expected "PRECEDING or FOLLOWING"

/-- A window frame, as it is written. -/
def windowFrame (inner : Level) : Parse String := do
  match ← oneOf? ["ROWS", "RANGE", "GROUPS"] with
  | none => expected "ROWS, RANGE, GROUPS"
  | some unit =>
    if ← keyword "BETWEEN" then do
      let first ← frameBound inner
      expectKeyword "AND"
      let last ← frameBound inner
      pure (unit ++ " BETWEEN " ++ first ++ " AND " ++ last)
    else do
      let first ← frameBound inner
      pure (unit ++ " " ++ first)

/-- The description of a window, after its opening parenthesis, as it is written. -/
def windowSpec (inner : Level) : Parse String := do
  let name ← match ← take? Token.isFreeWord with
    | some l => pure [(l.ident?.map Ident.text).getD ""]
    | none => pure []
  let partition ← afterKeywords? ["PARTITION", "BY"] inner.exprs
  let order ← orderClause? inner
  let frame ← if ← symbol ")" then pure []
    else do
      let frame ← windowFrame inner
      expectSymbol ")"
      pure [frame]
  pure (" ".intercalate (name ++
    (partition.toList.map fun es => "PARTITION BY " ++ (Expr.listed es).text) ++
    (order.toList.map fun terms => "ORDER BY " ++ (OrderTerm.listed terms).text) ++ frame))

/-- The names after points up to an asterisk, which ends them, after those that have been read. The
number bounds the names. -/
def partsAfter : Nat → List Ident → Parse (List Ident × Option Lexeme)
  | 0, parts => pure (parts, none)
  | n + 1, parts => do
    if ← symbol "." then do
      match ← take? fun t => (Lexeme.ident? ⟨t, default⟩).isSome || t.isSymbol "*" with
      | some l =>
        match l.ident? with
        | some i => partsAfter n (parts ++ [i])
        | none => pure (parts, some l)
      | none => expected "an identifier or a '*' after '.'"
    else pure (parts, none)

/-- A wildcard: the names in front of it, and where its asterisk stands. -/
structure Wildcard where
  parts : List Ident
  star : Extent

/-- The wildcard as a part of the text, without the place of its asterisk. -/
def Wildcard.fragment (w : Wildcard) : Fragment :=
  if w.parts.isEmpty then "*" else dottedFragment w.parts ++ ".*"

/-- The wildcard as a part of the text. -/
def Wildcard.wholeFragment (w : Wildcard) : Fragment :=
  ⟨w.fragment.span.union (some w.star), w.fragment.text⟩

/-- The wildcard that comes next; it takes nothing if there is none. -/
def wildcard? : Parse (Option Wildcard) := fun rest =>
  match rest with
  | ⟨.symbol "*", extent⟩ :: more => .ok (some ⟨[], extent⟩, more)
  | first :: second :: _ =>
    match first.ident?, second.token with
    | some i, .symbol "." => do
      match ← partsAfter rest.length [i] (rest.drop 1) with
      | ((parts, some star), more) => .ok (some ⟨parts, star.extent⟩, more)
      | ((_, none), _) => .ok (none, rest)
    | _, _ => .ok (none, rest)
  | _ => .ok (none, rest)

/-- An expression or a wildcard. -/
def wildcardOrExpr (inner : Level) : Parse Fragment := do
  match ← wildcard? with
  | some wildcard => pure wildcard.fragment
  | none => Expr.fragment <$> inner.expr

/-- The sign between the name of an argument and its value. -/
def argumentSign : Parse String := do
  if ← keyword "VALUE" then pure "VALUE"
  else if ← symbol "=>" then pure "=>"
  else if ← symbol ":" then pure ":"
  else expected "argument operator"

/-- An argument of a call, possibly with its name, which may be any expression. What is no wildcard
is read once, and is the argument itself where no value follows. -/
def argument (inner : Level) : Parse Fragment := fun rest =>
  match inner.expr rest with
  | .error .tooDeep => .error .tooDeep
  | .error f =>
    match wildcard? rest with
    | .ok (some wildcard, more) => .ok (wildcard.fragment, more)
    | .ok (none, _) => .error f
    | .error e => .error e
  | .ok (name, more) =>
    let value : Parse Fragment := do
      let sign ← argumentSign
      let value ← wildcardOrExpr inner
      pure (name.fragment ++ Fragment.words (" " ++ sign ++ " ") ++ value)
    match attempt value more with
    | .ok (some named, more) => .ok (named, more)
    | .ok (none, _) =>
      match wildcard? rest with
      | .ok (some wildcard, more) => .ok (wildcard.fragment, more)
      | .ok (none, _) => .ok (name.fragment, more)
      | .error e => .error e
    | .error e => .error e

/-- Whether a token is a text that fills the end of a list that grew too long. -/
def isFiller : Token → Bool
  | .quotation kind _ =>
    [Quotation.plain, .escaped, .unicode, .national, .hexadecimal].contains kind
  | _ => false

/-- What happens when a list grows too long, in an aggregation into a text, as it is written. -/
def onOverflow? (inner : Level) : Parse (Option String) := do
  if ← keywords ["ON", "OVERFLOW"] then do
    if ← keyword "ERROR" then pure (some "ON OVERFLOW ERROR")
    else do
      expectKeyword "TRUNCATE"
      let filler ← if ← nextIs (·.isOneOf ["WITH", "WITHOUT"]) then pure ""
        else do
          if ← nextIs isFiller then (" " ++ Expr.text ·) <$> inner.expr
          else expected "either filler, WITH, or WITHOUT in LISTAGG"
      match ← oneOf? ["WITH", "WITHOUT"] with
      | some word => do
        expectKeyword "COUNT"
        pure (some ("ON OVERFLOW TRUNCATE" ++ filler ++ " " ++ word ++ " COUNT"))
      | none => expected "either WITH or WITHOUT in LISTAGG"
  else pure none

/-- What is done with nulls in the result of a function, as it is written. -/
def nullClause? : Parse (Option String) := do
  if ← keywords ["ABSENT", "ON", "NULL"] then pure (some "ABSENT ON NULL")
  else if ← keywords ["NULL", "ON", "NULL"] then pure (some "NULL ON NULL")
  else pure none

/-- Whether all arguments count or only distinct ones, as it is written. -/
def duplicates : Parse String := do
  let place ← place
  let all ← keyword "ALL"
  let distinct ← keyword "DISTINCT"
  if all && distinct then fail (.expected "Cannot specify both ALL and DISTINCT" place)
  else pure (if all then "ALL " else if distinct then "DISTINCT " else "")

/-- The arguments of a call, after its opening parenthesis. -/
def arguments (inner : Level) : Parse Fragment := do
  let nulls ← nullClause?
  if ← symbol ")" then pure (Fragment.orNothing (nulls.map Fragment.words))
  else do
    let duplicates ← duplicates
    let arguments ← separated (argument inner)
    let order ← orderClause? inner
    let limit ← afterKeyword? "LIMIT" inner.expr
    let overflow ← onOverflow? inner
    let lastNulls ← nullClause?
    expectSymbol ")"
    let clauses : List Fragment := nulls.toList.map Fragment.words ++
      (order.toList.map fun terms => (OrderTerm.listed terms).after "ORDER BY ") ++
      (limit.toList.map fun e => e.fragment.after "LIMIT ") ++
      overflow.toList.map Fragment.words ++ lastNulls.toList.map Fragment.words
    pure (Fragment.words duplicates ++ Fragment.joined " " (Fragment.listed arguments :: clauses))

/-- How nulls are treated, as it is written. -/
def nullTreatment : Parse String := do
  match ← oneOf? ["RESPECT", "IGNORE"] with
  | some word => do
    expectKeyword "NULLS"
    pure (" " ++ word ++ " NULLS")
  | none => pure ""

/-- The condition on the rows that are aggregated. A part of its opening that has been read stays
read where the rest is missing. -/
def filterClause (inner : Level) : Parse Fragment := do
  if ← keyword "FILTER" then
    if ← symbol "(" then
      if ← keyword "WHERE" then do
        let condition ← inner.expr
        expectSymbol ")"
        pure (" FILTER (WHERE " ++ condition.fragment ++ ")")
      else pure ""
    else pure ""
  else pure ""

/-- The order of the rows that are aggregated, as it is written. -/
def groupOrder (inner : Level) : Parse String := do
  if ← keywords ["WITHIN", "GROUP"] then do
    expectSymbol "("
    expectKeywords ["ORDER", "BY"]
    let terms ← orderTerms inner
    expectSymbol ")"
    pure (" WITHIN GROUP (ORDER BY " ++ (OrderTerm.listed terms).text ++ ")")
  else pure ""

/-- The window that a function looks at, as it is written. -/
def windowClause (inner : Level) : Parse String := do
  if ← keyword "OVER" then do
    if ← symbol "(" then do
      let spec ← windowSpec inner
      pure (" OVER (" ++ spec ++ ")")
    else do
      let name ← ident
      pure (" OVER " ++ name.text)
  else pure ""

/-- The call of the function of a name. -/
def call (inner : Level) (name : List Ident) : Parse Fragment := do
  expectSymbol "("
  let arguments ← arguments inner
  let order ← groupOrder inner
  let filter ← filterClause inner
  let nulls ← nullTreatment
  let window ← windowClause inner
  pure (dottedFragment name ++ "(" ++ arguments ++ ")" ++ Fragment.words order ++ filter ++
    Fragment.words (nulls ++ window))

end Parse

end EntityQuery.ConditionText
