import EntityQuery.ConditionText.DataType

/-!
# Spans of time

The fields that a date or a time consists of, and literals that denote a span of time: an amount,
the unit it is counted in, and the last unit that counts.
-/

namespace EntityQuery.ConditionText.Parse

/-- The fields of dates and times that are units of a span of time. -/
def temporalUnits : List String :=
  ["YEAR", "MONTH", "WEEK", "DAY", "HOUR", "MINUTE", "SECOND", "CENTURY", "DECADE", "DOW", "DOY",
   "EPOCH", "ISODOW", "ISOYEAR", "JULIAN", "MICROSECOND", "MICROSECONDS", "MILLENIUM",
   "MILLENNIUM", "MILLISECOND", "MILLISECONDS", "NANOSECOND", "NANOSECONDS", "QUARTER",
   "TIMEZONE", "TIMEZONE_HOUR", "TIMEZONE_MINUTE"]

/-- The fields of dates and times that are no units. -/
def dateTimeFields : List String :=
  ["DAYOFWEEK", "DAYOFYEAR", "DATE", "DATETIME", "ISOWEEK", "TIME", "TIMEZONE_ABBR",
   "TIMEZONE_REGION"]

/-- A field of a date or a time in its canonical spelling; any other name is one too. -/
def dateTimeField : Parse String := do
  match ← oneOf? (temporalUnits ++ dateTimeFields) with
  | some field => pure field
  | none =>
    match ← take? fun t => (Lexeme.ident? ⟨t, default⟩).isSome with
    | some l => pure ((l.ident?.map Ident.text).getD "")
    | none => expected "date/time field"

/-- A length behind a field, as it is written. -/
def fieldLength : Parse String := do
  let written ← length
  pure (if written = "" then "" else " " ++ written)

/-- A precision and a fraction behind a field, as they are written. -/
def fieldFraction : Parse String := do
  if ← symbol "(" then do
    let precision ← literalNat
    let fraction ← if ← symbol "," then do
        let n ← literalNat
        pure (", " ++ toString n)
      else pure ""
    expectSymbol ")"
    pure (" (" ++ toString precision ++ fraction ++ ")")
  else pure ""

/-- A span of time, after its keyword, with what reads its amount. -/
def timeSpan (amount : Parse Expr) : Parse Expr := do
  let amount ← amount
  let leading ← if ← nextIs (·.isOneOf temporalUnits) then (" " ++ ·) <$> dateTimeField
    else pure ""
  let start : Fragment := "INTERVAL " ++ amount.fragment ++ leading
  if leading = " SECOND" then do
    let fraction ← fieldFraction
    pure (.other (start ++ Fragment.words fraction))
  else do
    let precision ← fieldLength
    if ← keyword "TO" then do
      let last ← dateTimeField
      let fraction ← if last = "SECOND" then fieldLength else pure ""
      pure (.other (start ++ Fragment.words (precision ++ " TO " ++ last ++ fraction)))
    else pure (.other (start ++ Fragment.words precision))

/-- An expression, possibly with a collation behind it. -/
def collated (e : Expr) : Parse Expr := do
  if ← keyword "COLLATE" then do
    let collation ← objectName
    pure (.other (e.fragment ++ " COLLATE " ++ dottedFragment collation))
  else pure e

end EntityQuery.ConditionText.Parse
