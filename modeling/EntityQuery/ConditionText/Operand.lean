import EntityQuery.ConditionText.Call

/-!
# Operands

What operators stand between: names, literals, calls, expressions in parentheses, signs and the
constructs that start with a word. No word is reserved at the start of an operand: a word that
starts a construct is a name after all where the construct cannot be read.
-/

namespace EntityQuery.ConditionText

/-- The binding strengths of the operators, from the tightest to the loosest. -/
inductive Strength where
  | typeCast | bracket | collation | timeZone | power | product | sum | exclusiveOr | special
  | membership | comparison | test | negation | conjunction | disjunction
  deriving DecidableEq, Repr

/-- A binding strength as a number: a greater number binds tighter. -/
def Strength.rank : Strength → Nat
  | typeCast => 140
  | bracket => 130
  | collation => 120
  | timeZone => 110
  | power => 100
  | product => 90
  | sum => 80
  | exclusiveOr => 75
  | special => 70
  | membership => 60
  | comparison => 50
  | test => 40
  | negation => 30
  | conjunction => 20
  | disjunction => 10

namespace Parse

/-- A text with its data type in front. -/
def typedText (timeSpan : Parse Expr) : Parse Expr := do
  match ← dataType with
  | .interval => timeSpan
  | .named _ _ => expected "a literal of a known type"
  | .known type => do
    let value ← literalText
    pure (.other (type ++ " " ++ between '\'' value))

/-- The branches of a case distinction, at most one more than the given number. -/
def branches (inner : Level) : Nat → Parse Fragment
  | 0 => pure ""
  | n + 1 => do
    let condition ← inner.expr
    expectKeyword "THEN"
    let result ← inner.expr
    let more ← if ← keyword "WHEN" then branches inner n else pure ""
    pure (" WHEN " ++ condition.fragment ++ " THEN " ++ result.fragment ++ more)

/-- A case distinction, after its keyword. -/
def caseDistinction (inner : Level) : Parse Expr := do
  let operand ← if ← keyword "WHEN" then pure none
    else do
      let operand ← inner.expr
      expectKeyword "WHEN"
      pure (some operand)
  let branches ← branches inner (← get).length
  let otherwise ← afterKeyword? "ELSE" inner.expr
  expectKeyword "END"
  pure (.other ("CASE" ++ Fragment.clause " " (operand.map Expr.fragment) ++
    branches ++ Fragment.clause " ELSE " (otherwise.map Expr.fragment) ++ " END"))

/-- A conversion, after its keyword. -/
def conversion (inner : Level) : Parse Expr := do
  expectSymbol "("
  let e ← inner.expr
  if ← keyword "USING" then do
    let charset ← objectName
    expectSymbol ")"
    pure (.other ("CONVERT(" ++ e.fragment ++ " USING " ++ dottedFragment charset ++ ")"))
  else do
    expectSymbol ","
    let type ← dataType
    let charset ← afterKeywords? ["CHARACTER", "SET"] objectName
    expectSymbol ")"
    pure (.other ("CONVERT(" ++ e.fragment ++ Fragment.words (", " ++ type.text) ++
      Fragment.clause " CHARACTER SET " (charset.map dottedFragment) ++ ")"))

/-- A cast, after its keyword. -/
def cast (inner : Level) (word : String) : Parse Expr := do
  expectSymbol "("
  let e ← inner.expr
  expectKeyword "AS"
  let type ← dataType
  let format ← if ← keyword "FORMAT" then do
      let format ← constant
      if ← keywords ["AT", "TIME", "ZONE"] then do
        let zone ← constant
        pure (" FORMAT " ++ format.text ++ " AT TIME ZONE " ++ zone.text)
      else pure (" FORMAT " ++ format.text)
    else pure ""
  expectSymbol ")"
  pure (.other (Fragment.words (word ++ "(") ++ e.fragment ++
    Fragment.words (" AS " ++ type.text ++ format ++ ")")))

/-- A test for a row, after its keyword. -/
def existence (inner : Level) (negated : Bool) : Parse Expr := do
  let query ← subquery inner
  pure (.other (query.after (if negated then "NOT EXISTS " else "EXISTS ")))

/-- A part of a date or a time, after its keyword. -/
def extraction (inner : Level) : Parse Expr := do
  expectSymbol "("
  let field ← dateTimeField
  if ← keyword "FROM" then do
    let e ← inner.expr
    expectSymbol ")"
    pure (.other (Fragment.words ("EXTRACT(" ++ field ++ " FROM ") ++ e.fragment ++ ")"))
  else fail (.expected "Expected 'FROM' or ','" none)

/-- A rounding, after its keyword. -/
def rounding (inner : Level) (word : String) : Parse Expr := do
  expectSymbol "("
  let e ← inner.expr
  let grain ← if ← keyword "TO" then (" TO " ++ ·) <$> dateTimeField
    else do
      if ← symbol "," then do
        match ← constant with
        | .number digits long => pure (", " ++ (Constant.number digits long).text)
        | _ => fail (.expected "Scale field can only be of number type" none)
      else pure ""
  expectSymbol ")"
  pure (.other (Fragment.words (word ++ "(") ++ e.fragment ++ Fragment.words (grain ++ ")")))

/-- The place of one text within another one, after its keyword; the keyword is the name of an
ordinary function too. -/
def position (inner : Level) (name : Ident) : Parse Expr := do
  let special ← attempt do
    expectSymbol "("
    let e ← inner.tighter Strength.membership.rank
    expectKeyword "IN"
    let whole ← inner.expr
    expectSymbol ")"
    pure (Expr.other ("POSITION(" ++ e.fragment ++ " IN " ++ whole.fragment ++ ")"))
  match special with
  | some e => pure e
  | none => .other <$> call inner [name]

/-- A part of a text, after its keyword. -/
def substring (inner : Level) : Parse Expr := do
  expectSymbol "("
  let e ← inner.expr
  let commas ← symbol ","
  let first ← if commas then some <$> inner.expr else afterKeyword? "FROM" inner.expr
  let count ← if ← keyword "FOR" then some <$> inner.expr
    else afterSymbol? "," inner.expr
  expectSymbol ")"
  let part (word : String) (part : Option Expr) : Fragment :=
    Fragment.clause (if commas then ", " else word) (part.map Expr.fragment)
  pure (.other ("SUBSTRING(" ++ e.fragment ++ part " FROM " first ++ part " FOR " count ++ ")"))

/-- A text with a part put in place of another one, after its keyword. -/
def overlay (inner : Level) : Parse Expr := do
  expectSymbol "("
  let e ← inner.expr
  expectKeyword "PLACING"
  let what ← inner.expr
  expectKeyword "FROM"
  let first ← inner.expr
  let count ← afterKeyword? "FOR" inner.expr
  expectSymbol ")"
  pure (.other ("OVERLAY(" ++ e.fragment ++ " PLACING " ++ what.fragment ++ " FROM " ++
    first.fragment ++ Fragment.clause " FOR " (count.map Expr.fragment) ++ ")"))

/-- A text without its ends, after its keyword. -/
def trimming (inner : Level) : Parse Expr := do
  expectSymbol "("
  let side ← oneOf? ["BOTH", "LEADING", "TRAILING"]
  let start := Fragment.words ("TRIM(" ++ (match side with | some word => word ++ " " | none => ""))
  let e ← inner.expr
  if ← keyword "FROM" then do
    let whole ← inner.expr
    expectSymbol ")"
    pure (.other (start ++ e.fragment ++ " FROM " ++ whole.fragment ++ ")"))
  else do
    discard (symbol ",")
    expectSymbol ")"
    pure (.other (start ++ e.fragment ++ ")"))

/-- The items of an array, after its opening bracket. -/
def arrayItems (inner : Level) (start : String) : Parse Expr := do
  if ← symbol "]" then pure (.other (Fragment.words (start ++ "[]")))
  else do
    let items ← inner.exprs
    expectSymbol "]"
    pure (.other (Fragment.words (start ++ "[") ++ Expr.listed items ++ "]"))

/-- A negation, after its keyword. -/
def negation (inner : Level) : Parse Expr := do
  if ← keyword "EXISTS" then existence inner true
  else do
    let e ← inner.tighter Strength.negation.rank
    pure (.other ("NOT " ++ e.fragment))

/-- The construct that starts with a word, after this word; nothing if the word starts none. The
amount of a span of time is read by an argument. -/
def construct? (inner : Level) (amount : Parse Expr) (name : Ident) (word : String) :
    Parse (Option Expr) := do
  match word with
  | "TRUE" => pure (some (.constant (.boolean true)))
  | "FALSE" => pure (some (.constant (.boolean false)))
  | "NULL" => pure (some (.constant .null))
  | "CURRENT_CATALOG" | "CURRENT_USER" | "SESSION_USER" | "USER" =>
    pure (some (.other name.fragment))
  | "CURRENT_TIMESTAMP" | "CURRENT_TIME" | "CURRENT_DATE" | "LOCALTIME" | "LOCALTIMESTAMP" =>
    if ← symbol "(" then do
      let arguments ← arguments inner
      pure (some (.other (name.fragment ++ "(" ++ arguments ++ ")")))
    else pure (some (.other name.fragment))
  | "CASE" => some <$> caseDistinction inner
  | "CONVERT" => some <$> conversion inner
  | "CAST" | "TRY_CAST" | "SAFE_CAST" => some <$> cast inner word
  | "EXISTS" => some <$> existence inner false
  | "EXTRACT" => some <$> extraction inner
  | "CEIL" | "FLOOR" => some <$> rounding inner word
  | "POSITION" =>
    if ← nextIs (·.isSymbol "(") then some <$> position inner name else pure none
  | "SUBSTRING" => some <$> substring inner
  | "OVERLAY" => some <$> overlay inner
  | "TRIM" => some <$> trimming inner
  | "INTERVAL" => some <$> timeSpan amount
  | "ARRAY" =>
    if ← symbol "[" then some <$> arrayItems inner "ARRAY"
    else if ← nextIs (·.isSymbol "(") then do
      let query ← subquery inner
      pure (some (.other (name.fragment ++ query)))
    else pure none
  | "NOT" => some <$> negation inner
  | _ => pure none

/-- The words that are no names where their construct cannot be read. -/
def strictWords : List String := ["EXISTS", "INTERVAL", "STRUCT", "TRIM"]

/-- What a name starts: a call, a name with names after points, a text with its character set in
front, or just itself. -/
def named (inner : Level) (name : Ident) : Parse Expr := do
  if ← nextIs fun t => t.isSymbol "(" || t.isSymbol "." then do
    match ← partsAfter (← get).length [name] with
    | (parts, some star) => pure (.other (Wildcard.mk parts star.extent).wholeFragment)
    | (parts, none) =>
      if ← nextIs (·.isSymbol "(") then .other <$> call inner parts else pure (.compound parts)
  else if name.value.startsWith "_" then do
    match ← take? fun
      | .quotation .plain _ | .quotation .hexadecimal _ => true
      | _ => false with
    | some l =>
      let value := (l.token.constant?.map Constant.text).getD ""
      pure (.other (Fragment.words (name.value ++ " " ++ value)))
    | none => pure (.ident name)
  else pure (.ident name)

/-- What a word starts, after this word: a construct, or else a name. -/
def wordOperand (inner : Level) (amount : Parse Expr) (name : Ident) (word : String) :
    Parse Expr := fun rest =>
  match construct? inner amount name word rest with
  | .ok (some e, more) => collated e more
  | .ok (none, _) => (named inner name >>= collated) rest
  | .error f =>
    if strictWords.contains word then .error f
    else
      match named inner name rest with
      | .ok result => .ok result
      | .error _ => .error f

/-- What stands in parentheses, after the opening one. -/
def inParentheses (inner : Level) : Parse Expr := do
  let e ← if ← nextIsQuery then Expr.subquery <$> inner.query
    else do
      match ← inner.exprs with
      | [e] => pure (.nested e)
      | es => pure (.other ("(" ++ Expr.listed es ++ ")"))
  expectSymbol ")"
  if ← symbol "." then do
    match ← take? fun | .word _ _ _ => true | _ => false with
    | some l =>
      match l.ident? with
      | some key => pure (.other (e.fragment ++ "." ++ key.fragment))
      | none => pure e
    | none => do
      let found := (← peek?).map Token.text
      fail (.expected ("Expected identifier, found: " ++ found.getD "EOF") (← place))
  else pure e

/-- A call in braces, after the opening one; the argument tells where it stands. -/
def callInBraces (inner : Level) (start : Location) : Parse Expr := do
  let body ← attempt do
    expectKeyword "FN"
    let name ← objectName
    call inner name
  match body with
  | some call => do
    expectSymbol "\x7d"
    pure (.other ("\x7bfn " ++ call ++ "\x7d"))
  | none => fail (.expected "an expression" (some start))

/-- The operators that stand in front of an operand, besides the signs. -/
def leadingOperators : List String := ["!!", "|/", "||/", "@", "~"]

/-- What starts with punctuation or an operator, which stands at the given location. -/
def symbolOperand (inner : Level) (text : String) (start : Location) : Parse Expr := do
  if text = "(" then inParentheses inner
  else if text = "[" then arrayItems inner ""
  else if text = "\x7b" then callInBraces inner start
  else if text = "-" then .signed .minus <$> inner.tighter Strength.product.rank
  else if text = "+" then .signed .plus <$> inner.tighter Strength.product.rank
  else if leadingOperators.contains text then
    .signed (.other text) <$> inner.tighter Strength.sum.rank
  else .constant <$> placeholderName text

/-- Whether an operand can start with a token. -/
def startsOperand : Token → Bool
  | .word _ _ _ | .number _ _ | .quotation _ _ | .dollarQuotation _ _ | .placeholder _ => true
  | .symbol text =>
    ["(", "[", "\x7b", "-", "+", ":"].contains text || leadingOperators.contains text
  | _ => false

/-- An operand that is no text with its data type in front. -/
def untypedOperand (inner : Level) (amount : Parse Expr) : Parse Expr := do
  match ← take? startsOperand with
  | some ⟨.word value quoted capitals, extent⟩ =>
    wordOperand inner amount ⟨value, if quoted then some '"' else none, some extent⟩ capitals
  | some ⟨.symbol text, extent⟩ => symbolOperand inner text extent.first >>= collated
  | some l =>
    match l.token.constant? with
    | some c => collated (.constant c)
    | none => expected "an expression"
  | none => expected "an expression"

/-- An operand. The number bounds how often a span of time is the amount of another one. -/
def operandWithin (inner : Level) : Nat → Parse Expr
  | 0 => expected "an expression"
  | n + 1 => do
    match ← attempt (typedText (timeSpan (operandWithin inner n))) with
    | some e => pure e
    | none => untypedOperand inner (operandWithin inner n)

/-- An operand. -/
def operand (inner : Level) : Parse Expr := fun rest =>
  operandWithin inner (rest.length + 1) rest

end Parse

end EntityQuery.ConditionText
