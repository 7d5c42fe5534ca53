import EntityQuery.ConditionText.Selection
import EntityQuery.Unicode.Quoted

/-!
# Phrases of statements

Small parts that several kinds of statements share: words around the name of an object, options,
arguments of functions, names of owners. Of a statement behind query text nothing but its end
counts, so these readings give back nothing unless a statement goes on differently for it.

Some places take a name only if it is there but use up what is there in any case. `looseIdent` and
`looseName` read such names.
-/

namespace EntityQuery.ConditionText.Parse

/-- Words in front of an object that may be there already. -/
def ifNotExists : Parse Bool := keywords ["IF", "NOT", "EXISTS"]

/-- Words in front of an object that may be missing. -/
def ifExists : Parse Bool := keywords ["IF", "EXISTS"]

/-- One token, whatever it is; tells whether it is a name. -/
def looseIdent : Parse Bool := do
  let l ← take? fun _ => true
  pure (l.any fun l => l.ident?.isSome)

/-- Names joined by points up to the first token that is no name, which is used up too; at most the
given number. -/
def looseParts : Nat → Parse Unit
  | 0 => pure ()
  | n + 1 => do
    if ← looseIdent then
      if ← symbol "." then looseParts n

/-- The name of an object; a token that is no name is used up too. -/
def looseName : Parse Unit := do looseParts (← get).length

/-- One or more names of objects. -/
def objectNames : Parse Unit := discard (separated objectName)

/-- One or more names. -/
def idents : Parse Unit := discard (separated ident)

/-- One or more names in parentheses. -/
def identsInParentheses : Parse Unit := discard (parenthesised (separated ident))

/-- One or more expressions in parentheses. -/
def exprsInParentheses (inner : Level) : Parse Unit := discard (parenthesised inner.exprs)

/-- The servers that a statement is meant for. -/
def onCluster : Parse Unit := discard (afterKeywords? ["ON", "CLUSTER"] ident)

/-- What is done with what depends on an object. -/
def dependents : Parse Unit := discard (oneOf? ["CASCADE", "RESTRICT"])

/-- A condition, if one follows. -/
def whereClause (inner : Level) : Parse Unit := discard (afterKeyword? "WHERE" inner.expr)

/-- Options with their values in parentheses. -/
def optionsInParentheses (inner : Level) : Parse Unit :=
  discard <| parenthesised <| separated do
    discard ident
    expectSymbol "="
    discard inner.expr

/-- Options with their values behind some keywords; tells whether there are any. -/
def optionsAfter (inner : Level) (keys : List String) : Parse Bool :=
  Option.isSome <$> afterKeywords? keys (optionsInParentheses inner)

/-- The formats of files. -/
def fileFormats : List String :=
  ["AVRO", "JSONFILE", "ORC", "PARQUET", "RCFILE", "SEQUENCEFILE", "TEXTFILE"]

/-- The format of a file. -/
def fileFormat : Parse String := do
  match ← oneOf? fileFormats with
  | some format => pure format
  | none => expected "fileformat"

/-- The argument of a function that is declared: its direction, its name, its type, and the value it
has if it is left out. -/
def declaredArgument (inner : Level) : Parse Unit := do
  discard (oneOf? ["IN", "OUT", "INOUT"])
  match ← dataType with
  | .named _ _ => discard dataType
  | _ => pure ()
  if ← either (keyword "DEFAULT") (symbol "=") then discard inner.expr

/-- The name of a function with the arguments that tell it from others of its name. -/
def declaredFunction (inner : Level) : Parse Unit := do
  discard objectName
  if ← symbol "(" then
    if ← symbol ")" then pure ()
    else do
      discard (separated (declaredArgument inner))
      expectSymbol ")"

/-- The owner of an object. -/
def owner : Parse Unit := do
  match ← oneOf? ["CURRENT_USER", "CURRENT_ROLE", "SESSION_USER"] with
  | some _ => pure ()
  | none =>
    match ← take? fun t => (Lexeme.ident? ⟨t, default⟩).isSome with
    | some _ => pure ()
    | none =>
      expected ("CURRENT_USER, CURRENT_ROLE, SESSION_USER or identifier after OWNER TO. " ++
        "sql parser error: Expected: identifier")

/-- A text of a single byte. -/
def literalCharacter : Parse Unit := do
  let place ← place
  let text ← literalText
  if text.utf8ByteSize = 1 then pure ()
  else fail (.expected ("Expect a char, found " ++ Unicode.quoted text) place)

/-- Names between commas; none where the token comes next that ends them. -/
def identsBefore (stop : String) : Parse Unit := do
  if ← nextIs (·.isSymbol stop) then pure () else idents

/-- A word, whether it is a keyword or not. -/
def anyWord : Parse Unit := do
  match ← take? fun | .word _ _ _ => true | _ => false with
  | some _ => pure ()
  | none => expected "identifier"

/-- The phrases that are left when the first of some phrases that comes next has been taken. -/
def afterFirstOf : List (Parse Bool) → Parse (Option (List (Parse Bool)))
  | [] => pure none
  | p :: ps => do
    if ← p then pure (some ps) else Option.map (p :: ·) <$> afterFirstOf ps

/-- Phrases in any order, each at most once, at most the given number. -/
def eachOnceAtMost : Nat → List (Parse Bool) → Parse Unit
  | 0, _ => pure ()
  | n + 1, ps => do
    match ← afterFirstOf ps with
    | some left => eachOnceAtMost n left
    | none => pure ()

/-- Phrases in any order, each at most once. -/
def eachOnce (ps : List (Parse Bool)) : Parse Unit := eachOnceAtMost ps.length ps

/-- Where an expression that cannot be read is given up: where something was expected, or behind the
token that starts no expression. -/
def givenUp (what : String) (place : Option Location) : List Lexeme → Option Location
  | [] => place
  | l :: rest =>
    if some l.extent.first = place then
      if what = "an expression" then rest.head?.map (·.extent.first) else place
    else givenUp what place rest

/-- An expression in a place where its own fault does not count. -/
def looseExpr (inner : Level) (what : String) : Parse Unit := fun rest =>
  match inner.expr rest with
  | .ok (_, more) => .ok ((), more)
  | .error .tooDeep => .error (.expected what (rest.head?.map (·.extent.first)))
  | .error (.expected fault place) => .error (.expected what (givenUp fault place rest))

/-- Readings one after another until one gives nothing. -/
def repeatedly (p : Parse Bool) : Parse Unit :=
  discard <| whileSome do
    if ← p then pure (some ()) else pure none

end EntityQuery.ConditionText.Parse
