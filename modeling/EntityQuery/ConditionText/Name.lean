import EntityQuery.ConditionText.Keyword
import EntityQuery.ConditionText.Parse
import EntityQuery.Numeral

/-!
# Names and literals

The smallest parts of query text: names, names of objects, literals and the texts and numbers that
some constructs take.
-/

namespace EntityQuery.ConditionText

/-- A token in its canonical spelling. -/
def Token.text : Token → String
  | word value quoted _ => if quoted then between '"' value else value
  | number digits long => if long then digits ++ "L" else digits
  | quotation kind value =>
    match kind with
    | .plain => "'" ++ value ++ "'"
    | .escaped => "E'" ++ value ++ "'"
    | .unicode => "U&'" ++ value ++ "'"
    | .national => "N'" ++ value ++ "'"
    | .hexadecimal => "X'" ++ value ++ "'"
    | .byteSingle => "B'" ++ value ++ "'"
    | .byteDouble => "B\"" ++ value ++ "\""
  | dollarQuotation tag value =>
    "$" ++ tag.getD "" ++ "$" ++ value ++ "$" ++ tag.getD "" ++ "$"
  | placeholder name => name
  | symbol text => text
  | customOperator text => text
  | other c => String.singleton c

/-- The name that a lexeme is, if it can be one. -/
def Lexeme.ident? (l : Lexeme) : Option Ident :=
  match l.token with
  | .word value quoted _ => some ⟨value, if quoted then some '"' else none, some l.extent⟩
  | .quotation .plain value => some ⟨value, some '\'', none⟩
  | _ => none

/-- The literal that a token is by itself, if it is one. -/
def Token.constant? : Token → Option Constant
  | word _ false "TRUE" => some (.boolean true)
  | word _ false "FALSE" => some (.boolean false)
  | word _ false "NULL" => some .null
  | word value true _ => some (.special (between '"' value))
  | number digits long => some (.number digits long)
  | quotation .plain value => some (.plainText value)
  | quotation .escaped value => some (.escapedText value)
  | quotation .unicode value =>
    some (.special ("U&'" ++ String.ofList (value.toList.flatMap codePointSpelling) ++ "'"))
  | quotation kind value => some (.special (quotation kind value).text)
  | dollarQuotation tag value => some (.special (dollarQuotation tag value).text)
  | placeholder name => some (.placeholder name)
  | _ => none

/-- The text that a token is where a text is asked for: a word that is no keyword counts too. -/
def Token.asText? : Token → Option String
  | quotation .plain value | quotation .escaped value | quotation .unicode value => some value
  | word value quoted capitals =>
    if (word value quoted capitals).isFreeWord then some value else none
  | _ => none

namespace Parse

/-- A name. -/
def ident : Parse Ident := do
  match ← take? fun t => (Lexeme.ident? ⟨t, default⟩).isSome with
  | some l =>
    match l.ident? with
    | some i => pure i
    | none => expected "identifier"
  | none => expected "identifier"

/-- The names after points, at most the given number. -/
def moreParts : Nat → Parse (List Ident)
  | 0 => pure []
  | n + 1 => do
    if ← symbol "." then do
      let i ← ident
      let more ← moreParts n
      pure (i :: more)
    else pure []

/-- The name of an object: names joined by points. -/
def objectName : Parse (List Ident) := do
  let first ← ident
  let more ← moreParts (← get).length
  pure (first :: more)

/-- Names in parentheses between commas, which have to be there. -/
def columnList : Parse (List Ident) := do
  if ← symbol "(" then do
    let names ← separated ident
    expectSymbol ")"
    pure names
  else expected "a list of columns in parentheses"

/-- Names in parentheses between commas; none where no parenthesis comes next. -/
def columnList? : Parse (List Ident) := do
  if ← nextIs (·.isSymbol "(") then columnList else pure []

/-- The name of a placeholder, after the mark in front of it. -/
def placeholderName (mark : String) : Parse Constant := do
  match ← take? fun | .word _ _ _ => true | .number _ false => true | _ => false with
  | some ⟨.word value _ _, _⟩ => pure (.placeholder (mark ++ value))
  | some ⟨.number digits _, _⟩ => pure (.placeholder (mark ++ digits))
  | _ => expected "placeholder"

/-- The marks in front of the name of a placeholder. -/
def placeholderMarks : List String := [":", "@"]

/-- A literal. -/
def constant : Parse Constant := do
  match ← take? fun t => t.constant?.isSome || placeholderMarks.any t.isSymbol with
  | some l =>
    match l.token.constant? with
    | some c => pure c
    | none => placeholderName l.token.text
  | none =>
    match ← peek? with
    | some (.word _ _ _) => expected "a concrete value"
    | _ => expected "a value"

/-- A number or a placeholder. -/
def numberValue : Parse Constant := do
  let before ← get
  match ← constant with
  | .number digits long => pure (.number digits long)
  | .placeholder name => pure (.placeholder name)
  | _ => do
    set before
    expected "literal number"

/-- A number or a placeholder, possibly with a sign, as it is written. -/
def signedNumber : Parse String := do
  match ← take? fun t => t.isSymbol "+" || t.isSymbol "-" with
  | some l => do
    let value ← numberValue
    pure (l.token.text ++ value.text)
  | none => Constant.text <$> numberValue

/-- A text. -/
def literalText : Parse String := do
  match ← take? fun t => t.asText?.isSome with
  | some l => pure (l.token.asText?.getD "")
  | none => expected "literal string"

/-- Why digits are no number of a type that holds natural numbers below a bound. -/
def numberFault (type digits : String) : String :=
  "Could not parse '" ++ digits ++ "' as " ++ type ++ ": " ++
    if digits.toList.all Char.isDigit then "number too large to fit in target type"
    else "invalid digit found in string"

/-- A natural number of a type that holds those below a bound. -/
def natBelow (type : String) (bound : Nat) : Parse Nat := do
  match ← take? fun | .number _ _ => true | _ => false with
  | some ⟨.number digits _, extent⟩ =>
    match Numeral.natBelow? bound digits.toList with
    | some n => pure n
    | none => fail (.expected (numberFault type digits) (some extent.first))
  | _ => expected "literal int"

/-- A natural number of sixty-four bits. -/
def literalNat : Parse Nat := natBelow "u64" Numeral.wordBound

end Parse

end EntityQuery.ConditionText
