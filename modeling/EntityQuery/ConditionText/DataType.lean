import EntityQuery.ConditionText.Name

/-!
# Names of data types

A data type stands behind `::`, in a cast, and in front of a text. Only its canonical spelling
matters, and whether it is one of the language's own types: in front of a text a name of any other
kind is no type. The angle brackets of arrays may nest, and two closing ones may be written as one
operator, so a type is read together with the closing bracket that was taken with it for the type
around it.
-/

namespace EntityQuery.ConditionText

/-- A data type in its canonical spelling. -/
inductive DataType where
  | interval
  /-- A type that the language does not know, with the first part of its name. -/
  | named (first : Option Ident) (text : String)
  | known (text : String)
  deriving DecidableEq, Repr

namespace DataType

/-- The canonical spelling. -/
def text : DataType → String
  | interval => "INTERVAL"
  | named _ text | known text => text

/-- The types that are a single word, with their canonical spelling. -/
def plain : List (String × String) :=
  [("BOOLEAN", "BOOLEAN"), ("BOOL", "BOOL"), ("REAL", "REAL"), ("FLOAT4", "FLOAT4"),
   ("FLOAT8", "FLOAT8"), ("FLOAT32", "Float32"), ("FLOAT64", "FLOAT64"), ("INT16", "Int16"),
   ("INT32", "Int32"), ("INT64", "INT64"), ("INT128", "Int128"), ("INT256", "Int256"),
   ("UINT8", "UInt8"), ("UINT16", "UInt16"), ("UINT32", "UInt32"), ("UINT64", "UInt64"),
   ("UINT128", "UInt128"), ("UINT256", "UInt256"), ("UUID", "UUID"), ("DATE", "DATE"),
   ("DATE32", "Date32"), ("JSON", "JSON"), ("JSONB", "JSONB"), ("REGCLASS", "REGCLASS"),
   ("TEXT", "TEXT"), ("TINYTEXT", "TINYTEXT"), ("MEDIUMTEXT", "MEDIUMTEXT"),
   ("LONGTEXT", "LONGTEXT"), ("BYTEA", "BYTEA"), ("TINYBLOB", "TINYBLOB"),
   ("MEDIUMBLOB", "MEDIUMBLOB"), ("LONGBLOB", "LONGBLOB"), ("TRIGGER", "TRIGGER")]

/-- The types with an optional length. -/
def sized : List String :=
  ["FLOAT", "BLOB", "CLOB", "BINARY", "VARBINARY", "BYTES", "DATETIME", "STRING"]

/-- The integer types, which may be unsigned. -/
def integers : List String :=
  ["TINYINT", "INT2", "SMALLINT", "MEDIUMINT", "INT", "INT4", "INTEGER", "BIGINT", "INT8"]

/-- The types with a precision and a scale. -/
def exact : List String := ["NUMERIC", "DECIMAL", "DEC", "BIGNUMERIC", "BIGDECIMAL"]

/-- The types that are lists of texts which may have a number each. -/
def enumerations : List String := ["ENUM", "ENUM8", "ENUM16"]

end DataType

namespace Parse

/-- An optional length in parentheses, as it is written. -/
def length : Parse String := do
  if ← symbol "(" then do
    let n ← literalNat
    expectSymbol ")"
    pure ("(" ++ toString n ++ ")")
  else pure ""

/-- An optional length of characters in parentheses, as it is written. -/
def characterLength : Parse String := do
  if ← symbol "(" then do
    if ← keyword "MAX" then do
      expectSymbol ")"
      pure "(MAX)"
    else do
      let n ← literalNat
      let unit ← oneOf? ["CHARACTERS", "OCTETS"]
      expectSymbol ")"
      pure ("(" ++ toString n ++ (match unit with | some u => " " ++ u | none => "") ++ ")")
  else pure ""

/-- An optional precision with an optional scale, as it is written. -/
def precisionAndScale : Parse String := do
  if ← symbol "(" then do
    let precision ← literalNat
    if ← symbol "," then do
      let scale ← literalNat
      expectSymbol ")"
      pure ("(" ++ toString precision ++ "," ++ toString scale ++ ")")
    else do
      expectSymbol ")"
      pure ("(" ++ toString precision ++ ")")
  else pure ""

/-- An optional time zone, as it is written. -/
def timeZone : Parse String := do
  match ← oneOf? ["WITH", "WITHOUT"] with
  | some word => do
    expectKeywords ["TIME", "ZONE"]
    pure (" " ++ word ++ " TIME ZONE")
  | none => pure ""

/-- A precision with an optional name of a time zone, as it is written. -/
def precisionAndZone : Parse String := do
  expectSymbol "("
  let precision ← literalNat
  let zone ← afterSymbol? "," literalText
  expectSymbol ")"
  pure ("(" ++ toString precision ++ (match zone with | some z => ", '" ++ z ++ "'" | none => "") ++
    ")")

/-- The rest of a type of characters, as it is written. -/
def characters (word : String) : Parse String := do
  if ← keyword "VARYING" then (word ++ " VARYING" ++ ·) <$> characterLength
  else if ← keywords ["LARGE", "OBJECT"] then (word ++ " LARGE OBJECT" ++ ·) <$> length
  else (word ++ ·) <$> characterLength

/-- A member of an enumeration, as it is written. -/
def enumerationMember : Parse String := do
  let name ← literalText
  match ← afterSymbol? "=" signedNumber with
  | some n => pure (between '\'' name ++ " = " ++ n)
  | none => pure (between '\'' name)

/-- The texts of a set up to its closing parenthesis, at most the given number. -/
def setMembers : Nat → Parse (List String)
  | 0 => expected "a string"
  | n + 1 => do
    match ← take? fun | .quotation .plain _ => true | _ => false with
    | some ⟨.quotation _ value, _⟩ =>
      if ← symbol "," then (between '\'' value :: ·) <$> setMembers n
      else if ← symbol ")" then pure [between '\'' value]
      else expected ", or \x7d"
    | _ => expected "a string"

/-- A modifier of a type that the language does not know. -/
def modifier : Parse (Option (Option String)) := do
  match ← take? fun
    | .word _ _ _ | .number _ _ | .quotation .plain _ | .symbol "," => true
    | _ => false with
  | some ⟨.number digits _, _⟩ => pure (some (some digits))
  | some ⟨.quotation _ value, _⟩ => pure (some (some value))
  | some ⟨.symbol _, _⟩ => pure (some none)
  | some l => pure (some (some l.token.text))
  | none => pure none

/-- A type that the language does not know, with its modifiers. -/
def namedType : Parse DataType := do
  let name ← objectName
  if ← symbol "(" then do
    let modifiers ← whileSome modifier
    if ← symbol ")" then
      match modifiers.filterMap id with
      | [] => pure (.named name.head? (dotted name))
      | written => pure (.named name.head? (dotted name ++ "(" ++ ", ".intercalate written ++ ")"))
    else expected "type modifiers"
  else pure (.named name.head? (dotted name))

/-- The rest of a type of the language that starts with a keyword. -/
def knownType (word : String) : Parse DataType := do
  match DataType.plain.lookup word with
  | some text => pure (.known text)
  | none =>
    if DataType.sized.contains word then (.known <| word ++ ·) <$> length
    else if DataType.exact.contains word then (.known <| word ++ ·) <$> precisionAndScale
    else if DataType.integers.contains word then do
      let size ← length
      let unsigned ← keyword "UNSIGNED"
      pure (.known (word ++ size ++ if unsigned then " UNSIGNED" else ""))
    else if DataType.enumerations.contains word then do
      let members ← parenthesised (separated enumerationMember)
      pure (.known (word ++ "(" ++ ", ".intercalate members ++ ")"))
    else
      match word with
      | "INTERVAL" => pure .interval
      | "DOUBLE" => do
        pure (.known (if ← keyword "PRECISION" then "DOUBLE PRECISION" else "DOUBLE"))
      | "VARCHAR" | "NVARCHAR" => (.known <| word ++ ·) <$> characterLength
      | "CHARACTER" | "CHAR" => .known <$> characters word
      | "BIT" => do
        let varying ← keyword "VARYING"
        (.known <| (if varying then "BIT VARYING" else "BIT") ++ ·) <$> length
      | "TIMESTAMP" | "TIME" => do
        let precision ← length
        (.known <| word ++ precision ++ ·) <$> timeZone
      | "TIMESTAMPTZ" | "TIMETZ" => (.known <| word ++ ·) <$> length
      | "DATETIME64" => (.known <| "DateTime64" ++ ·) <$> precisionAndZone
      | "FIXEDSTRING" => do
        let size ← parenthesised literalNat
        pure (.known ("FixedString(" ++ toString size ++ ")"))
      | _ => do
        expectSymbol "("
        let members ← setMembers (← get).length
        pure (.known (word ++ "(" ++ ", ".intercalate members ++ ")"))

/-- The keywords that start a type of the language, besides those in the lists. -/
def typeWords : List String :=
  ["INTERVAL", "DOUBLE", "VARCHAR", "NVARCHAR", "CHARACTER", "CHAR", "BIT", "TIMESTAMP", "TIME",
   "TIMESTAMPTZ", "TIMETZ", "DATETIME64", "FIXEDSTRING", "SET"]

/-- A type without brackets behind it. -/
def simpleType : Parse DataType := do
  let starts := DataType.plain.map (·.1) ++ DataType.sized ++ DataType.exact ++
    DataType.integers ++ DataType.enumerations ++ typeWords
  match ← oneOf? starts with
  | some word => knownType word
  | none => do
    if ← nextIs (fun | .word _ _ _ => true | _ => false) then namedType
    else expected "a data type name"

/-- A pair of brackets behind a type, with an optional size. -/
def brackets : Parse (Option String) := do
  if ← symbol "[" then do
    let size ← attempt literalNat
    expectSymbol "]"
    pure (some ("[" ++ (size.map toString).getD "" ++ "]"))
  else pure none

/-- A data type, and whether a closing bracket has been taken that belongs to the type around it.
The number bounds the angle brackets. -/
def typeAndBracket : Nat → Parse (DataType × Bool)
  | 0 => expected "a data type name"
  | n + 1 => do
    let (type, spare) ← if ← keyword "ARRAY" then do
        expectSymbol "<"
        let (element, closed) ← typeAndBracket n
        let type := DataType.known ("ARRAY<" ++ element.text ++ ">")
        if closed then pure (type, false)
        else if ← symbol ">" then pure (type, false)
        else if ← symbol ">>" then pure (type, true)
        else expected ">"
      else do
        let type ← simpleType
        pure (type, false)
    match ← whileSome brackets with
    | [] => pure (type, spare)
    | dimensions => pure (.known (type.text ++ String.join dimensions), spare)

/-- A data type. -/
def dataType : Parse DataType := do
  let (type, spare) ← typeAndBracket (← get).length
  if spare then do
    let next := (← peek?).map Token.text
    fail (.expected ("unmatched > after parsing data type " ++ type.text ++ next.getD "EOF") none)
  else pure type

end Parse

end EntityQuery.ConditionText
