import EntityQuery.ConditionText.Operand

/-!
# Operations

An expression is an operand followed by operators, each with its right side. The operator that
comes next is taken as long as it binds tighter than what stands in front of the expression; its
right side holds only operators that bind tighter than itself, so equal operators group to the
left.
-/

namespace EntityQuery.ConditionText

namespace Parse

/-- The strengths of the operators that are no words. -/
def symbolStrength (text : String) : Option Strength :=
  if ["=", "==", "<>", "<", "<=", ">", ">=", "~", "~*", "!~", "!~*", "~~", "~~*", "!~~", "!~~*",
      "<=>"].contains text then some .comparison
  else if ["+", "-"].contains text then some .sum
  else if ["*", "/", "%"].contains text then some .product
  else if ["->", "->>", "#>", "#>>", "@>", "<@", "#-", "@?", "@@", "?", "?&", "?|", "!", "&&", "^@",
      "||", "#", ">>", "<<", "|", "&"].contains text then some .special
  else if text = "^" then some .power
  else if text = "::" then some .typeCast
  else if text = "[" then some .bracket
  else none

/-- The strengths of the operators that are words. -/
def wordStrength (word : String) : Option Strength :=
  match word with
  | "OR" => some .disjunction
  | "AND" => some .conjunction
  | "XOR" => some .exclusiveOr
  | "IS" => some .test
  | "IN" | "BETWEEN" | "LIKE" | "ILIKE" | "RLIKE" | "REGEXP" | "SIMILAR" | "OPERATOR" =>
    some .membership
  | "DIV" => some .product
  | "COLLATE" => some .collation
  | _ => none

/-- The words that can follow a negation inside an expression. -/
def negatableWords : List String :=
  ["IN", "BETWEEN", "LIKE", "ILIKE", "RLIKE", "REGEXP", "SIMILAR"]

/-- Whether the first two of some tokens are two keywords. -/
def startsWithBoth (a b : String) : List Lexeme → Bool
  | first :: second :: _ => first.token.isKeyword a && second.token.isKeyword b
  | _ => false

/-- The rank of the operator that some tokens start with; zero if they start with none. -/
def nextRank : List Lexeme → Nat
  | [] => 0
  | first :: more =>
    match first.token with
    | .symbol text => ((symbolStrength text).map Strength.rank).getD 0
    | .customOperator _ => Strength.special.rank
    | .word _ false "NOT" =>
      match more with
      | second :: _ => if second.token.isOneOf negatableWords then Strength.membership.rank else 0
      | [] => 0
    | .word _ false "AT" =>
      if startsWithBoth "TIME" "ZONE" more then Strength.timeZone.rank else 0
    | .word _ false word => ((wordStrength word).map Strength.rank).getD 0
    | _ => 0

/-- The operator between two expressions that a token is, if it is one. -/
def binaryOp? : Token → Option BinaryOp
  | .symbol text =>
    match text with
    | "=" | "==" => some .eq
    | "<>" => some .notEq
    | "<" => some .lt
    | "<=" => some .ltEq
    | ">" => some .gt
    | ">=" => some .gtEq
    | "!" | "::" | "[" => none
    | _ => if (symbolStrength text).isSome then some (.other text) else none
  | .customOperator text => some (.other text)
  | .word _ false "AND" => some .and
  | .word _ false "OR" => some .or
  | .word _ false "XOR" => some (.other "XOR")
  | _ => none

/-- Whether an operator compares two expressions. -/
def comparesOrder : BinaryOp → Bool
  | .eq | .notEq | .lt | .ltEq | .gt | .gtEq => true
  | _ => false

/-- The right side of an operator: an expression, or all rows of one. -/
def rightSide (inner : Level) (left : Expr) (op : BinaryOp) (place : Location) (rank : Nat) :
    Parse Expr := do
  match ← oneOf? ["ANY", "ALL", "SOME"] with
  | none => .binary left op <$> inner.tighter rank
  | some word => do
    let before ← get
    expectSymbol "("
    let right ← if ← nextIsQuery then do
        set before
        let right ← inner.tighter rank
        pure (if right.isSubquery then right.fragment else "(" ++ right.fragment ++ ")")
      else do
        let right ← inner.tighter rank
        expectSymbol ")"
        pure ("(" ++ right.fragment ++ ")")
    if comparesOrder op then
      pure (.other (left.fragment ++ Fragment.words (" " ++ op.text ++ " " ++ word) ++ right))
    else
      fail (.expected ("Expected one of [=, >, <, =>, =<, !=] as comparison operator, found: " ++
        op.text) (some place))

/-- The name of an operator, with points between its parts, at most the given number. -/
def operatorParts : Nat → Parse (List String)
  | 0 => pure []
  | n + 1 => do
    let found := ((← take? fun _ => true).map (·.token.text)).getD "EOF"
    if ← symbol "." then do
      let more ← operatorParts n
      pure (found :: more)
    else pure [found]

/-- A test, after its keyword. -/
def test (inner : Level) (e : Expr) : Parse Expr := do
  let simple (words : String) : Parse Expr :=
    pure (.other (e.fragment ++ Fragment.words (" IS " ++ words)))
  let distinction (words : String) : Parse Expr := do
    let other ← inner.expr
    pure (.other (e.fragment ++ Fragment.words (" IS " ++ words ++ " ") ++ other.fragment))
  if ← keyword "NULL" then pure (.isNull e false)
  else if ← keywords ["NOT", "NULL"] then pure (.isNull e true)
  else if ← keyword "TRUE" then simple "TRUE"
  else if ← keywords ["NOT", "TRUE"] then simple "NOT TRUE"
  else if ← keyword "FALSE" then simple "FALSE"
  else if ← keywords ["NOT", "FALSE"] then simple "NOT FALSE"
  else if ← keyword "UNKNOWN" then simple "UNKNOWN"
  else if ← keywords ["NOT", "UNKNOWN"] then simple "NOT UNKNOWN"
  else if ← keywords ["DISTINCT", "FROM"] then distinction "DISTINCT FROM"
  else if ← keywords ["NOT", "DISTINCT", "FROM"] then distinction "NOT DISTINCT FROM"
  else expected "[NOT] NULL or TRUE|FALSE or [NOT] DISTINCT FROM after IS"

/-- A membership test, after its keyword. -/
def membership (inner : Level) (e : Expr) (negated : Bool) : Parse Expr := do
  let start : Fragment := e.fragment ++ if negated then " NOT IN " else " IN "
  if ← keyword "UNNEST" then do
    let array ← parenthesised inner.expr
    pure (.other (start ++ "UNNEST(" ++ array.fragment ++ ")"))
  else do
    expectSymbol "("
    if ← nextIsQuery then do
      let query ← inner.query
      expectSymbol ")"
      pure (.other (start ++ "(" ++ query ++ ")"))
    else do
      let items ← inner.exprs
      expectSymbol ")"
      pure (.inList e items negated)

/-- The character that quotes the wildcards of a pattern, if one is given. -/
def escapeCharacter : Parse (Option String) := afterKeyword? "ESCAPE" literalText

/-- A pattern, with what surrounds it. -/
def pattern (inner : Level) : Parse (Bool × Expr × Option String) := do
  let any ← keyword "ANY"
  let pattern ← inner.tighter Strength.membership.rank
  let escape ← escapeCharacter
  pure (any, pattern, escape)

/-- The words of a pattern test that ignores case. The word for any pattern stands right in front of
the pattern where a character is given that quotes wildcards. -/
def ignoringCaseWords (negated any escaped : Bool) : String :=
  if any && escaped then Expr.likeWords "ILIKE" negated false ++ "ANY"
  else Expr.likeWords "ILIKE" negated any

/-- What follows an expression and an optional negation: a membership test, a range or a pattern. A
pattern of regular expressions may have both of its words; as a whole it has no place. -/
def membershipOrPattern (inner : Level) (e : Expr) (negated : Bool) : Parse Expr := do
  let regular ← keyword "REGEXP"
  if (← keyword "RLIKE") || regular then do
    let pattern ← inner.tighter Strength.membership.rank
    pure (.other (Fragment.words (e.text ++ (if negated then " NOT " else " ") ++
      (if regular then "REGEXP" else "RLIKE") ++ " " ++ pattern.text)))
  else
    match ← oneOf? ["IN", "BETWEEN", "LIKE", "ILIKE"] with
    | some "IN" => membership inner e negated
    | some "BETWEEN" => do
      let low ← inner.tighter Strength.membership.rank
      expectKeyword "AND"
      let high ← inner.tighter Strength.membership.rank
      pure (.other (e.fragment ++ (if negated then " NOT BETWEEN " else " BETWEEN ") ++
        low.fragment ++ " AND " ++ high.fragment))
    | some "LIKE" => do
      let (any, pattern, escape) ← pattern inner
      pure (.like negated any e pattern escape)
    | some _ => do
      let (any, pattern, escape) ← pattern inner
      pure (.other (e.fragment ++ Fragment.words (ignoringCaseWords negated any escape.isSome) ++
        pattern.fragment ++ Fragment.words (Expr.escapeWords escape)))
    | none =>
      if ← keywords ["SIMILAR", "TO"] then do
        let pattern ← inner.tighter Strength.membership.rank
        let escape ← escapeCharacter
        pure (.other (e.fragment ++ Fragment.words (Expr.likeWords "SIMILAR TO" negated false) ++
          pattern.fragment ++ Fragment.words (Expr.escapeWords escape)))
      else expected "IN or BETWEEN after NOT"

/-- What stands in brackets behind an expression, after the opening one: an index, or bounds and a
step between colons. -/
def subscript (inner : Level) (e : Expr) : Parse Expr := do
  let result (contents : Fragment) : Expr := .other (e.fragment ++ "[" ++ contents ++ "]")
  let low ← if ← symbol ":" then pure none else some <$> inner.expr
  let written := Fragment.orNothing (low.map Expr.fragment)
  if ← symbol "]" then pure (result (if low.isSome then written else ":"))
  else do
    if low.isSome then expectSymbol ":"
    if ← symbol "]" then pure (result (written ++ ":"))
    else do
      let high ← inner.expr
      let written := written ++ ":" ++ high.fragment
      if ← symbol "]" then pure (result written)
      else do
        expectSymbol ":"
        if ← symbol "]" then pure (result written)
        else do
          let step ← inner.expr
          expectSymbol "]"
          pure (result (written ++ ":" ++ step.fragment))

/-- Why a word has no right side. -/
def noRightSide (value word : String) : String :=
  "No infix parser for token Word(Word \x7b value: \"" ++ value ++
    "\", quote_style: None, keyword: " ++ word ++ " \x7d)"

/-- An expression with the operation of a word behind it, after this word. -/
def wordOperation (inner : Level) (e : Expr) (rank : Nat) (value word : String)
    (place : Location) : Parse Expr := do
  match word with
  | "IS" => test inner e
  | "AT" => do
    expectKeywords ["TIME", "ZONE"]
    let zone ← inner.tighter rank
    pure (.other (e.fragment ++ " AT TIME ZONE " ++ zone.fragment))
  | "OPERATOR" => do
    expectSymbol "("
    let parts ← operatorParts (← get).length
    expectSymbol ")"
    rightSide inner e (.other ("OPERATOR(" ++ ".".intercalate parts ++ ")")) place rank
  | "NOT" => membershipOrPattern inner e true
  | _ => fail (.expected (noRightSide value word) (some place))

/-- An expression with the next operation behind it, whose operator has the given rank. -/
def operation (inner : Level) (e : Expr) (rank : Nat) : Parse Expr := do
  if ← nextIs (·.isOneOf negatableWords) then membershipOrPattern inner e false
  else
    match ← take? fun _ => true with
    | none => pure e
    | some l =>
      match binaryOp? l.token with
      | some op => rightSide inner e op l.extent.first rank
      | none =>
        match l.token with
        | .symbol "::" => do
          let type ← dataType
          pure (.other (e.fragment ++ Fragment.words ("::" ++ type.text)))
        | .symbol "[" => subscript inner e
        | .symbol text => pure (.other (e.fragment ++ Fragment.words text))
        | .word value _ word => wordOperation inner e rank value word l.extent.first
        | _ => pure e

/-- An expression with the operations behind it that bind tighter than the given rank, at most the
given number of them. -/
def operations (inner : Level) (rank : Nat) : Nat → Expr → Parse Expr
  | 0, e => pure e
  | n + 1, e => fun rest =>
    let next := nextRank rest
    if next ≤ rank then .ok (e, rest)
    else (operation inner e next >>= operations inner rank n) rest

/-- An expression in which all operators outside parentheses bind tighter than the given rank. -/
def expression (inner : Level) (rank : Nat) : Parse Expr := do
  let e ← operand inner
  operations inner rank (← get).length e

end Parse

end EntityQuery.ConditionText
