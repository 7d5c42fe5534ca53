import EntityQuery.ConditionText.Expr

/-!
# Reading from tokens

Reading takes tokens from the front of a list and either gives a result and the tokens that are
left or fails. A failure names what was expected and the place of the token that stands there
instead. `Parse.attempt` takes back what a failed reading has used up, but text that is nested too
deeply stays a failure.
-/

namespace EntityQuery.ConditionText

/-- Reading something from the tokens that are left. -/
abbrev Parse (α : Type) : Type := StateT (List Lexeme) (Except Failure) α

namespace Parse

/-- Fails, whatever is left. -/
def fail {α : Type} (f : Failure) : Parse α := fun _ => .error f

/-- Fails at the next token. -/
def expected {α : Type} (what : String) : Parse α := fun rest =>
  .error (.expected what (rest.head?.map (·.extent.first)))

/-- Where the next token stands, if one is left. -/
def place : Parse (Option Location) := fun rest => .ok (rest.head?.map (·.extent.first), rest)

/-- The next token, if one is left. -/
def peek? : Parse (Option Token) := fun rest => .ok (rest.head?.map (·.token), rest)

/-- Whether the next token is of a kind. -/
def nextIs (p : Token → Bool) : Parse Bool := fun rest =>
  match rest with
  | l :: _ => .ok (p l.token, rest)
  | [] => .ok (false, [])

/-- Takes the next token if it is of a kind. -/
def take? (p : Token → Bool) : Parse (Option Lexeme) := fun rest =>
  match rest with
  | l :: more => if p l.token then .ok (some l, more) else .ok (none, rest)
  | [] => .ok (none, [])

/-- Takes the next token if it is of a kind, and tells whether it is. -/
def accept (p : Token → Bool) : Parse Bool := fun rest =>
  match rest with
  | l :: more => if p l.token then .ok (true, more) else .ok (false, rest)
  | [] => .ok (false, [])

/-- Takes the next token, whatever it is. -/
def skipAny : Parse Unit := fun rest => .ok ((), rest.drop 1)

/-- Takes a keyword, if it comes next. -/
def keyword (key : String) : Parse Bool := accept (·.isKeyword key)

/-- Takes punctuation or an operator, if it comes next. -/
def symbol (text : String) : Parse Bool := accept (·.isSymbol text)

/-- The rest after some keywords, if they all come next. -/
def afterKeywords : List String → List Lexeme → Option (List Lexeme)
  | [], rest => some rest
  | key :: keys, l :: rest => if l.token.isKeyword key then afterKeywords keys rest else none
  | _ :: _, [] => none

/-- Takes several keywords, if they all come next. -/
def keywords (keys : List String) : Parse Bool := fun rest =>
  match afterKeywords keys rest with
  | some more => .ok (true, more)
  | none => .ok (false, rest)

/-- Whether several keywords come next. -/
def nextAre (keys : List String) : Parse Bool := fun rest =>
  .ok ((afterKeywords keys rest).isSome, rest)

/-- Takes one of several keywords, if one comes next. -/
def oneOf? (keys : List String) : Parse (Option String) := fun rest =>
  match rest with
  | ⟨.word value false capitals, extent⟩ :: more =>
    if keys.contains capitals then .ok (some capitals, more)
    else .ok (none, ⟨.word value false capitals, extent⟩ :: more)
  | _ => .ok (none, rest)

/-- The first one of two readings, or the second one where the first one takes nothing; tells
whether one of them takes something. -/
def either (p q : Parse Bool) : Parse Bool := do
  if ← p then pure true else q

/-- Takes a keyword that has to come next. -/
def expectKeyword (key : String) : Parse Unit := do
  if ← keyword key then pure () else expected key

/-- Takes several keywords that have to come next. -/
def expectKeywords : List String → Parse Unit
  | [] => pure ()
  | key :: keys => do
    expectKeyword key
    expectKeywords keys

/-- Takes one of several keywords, of which one has to come next. -/
def expectOneOf (keys : List String) : Parse String := do
  match ← oneOf? keys with
  | some key => pure key
  | none => expected ("one of " ++ " or ".intercalate keys)

/-- Takes punctuation that has to come next. -/
def expectSymbol (text : String) : Parse Unit := do
  if ← symbol text then pure () else expected text

/-- A reading that takes nothing if it fails, unless the text is nested too deeply. -/
def attempt {α : Type} (p : Parse α) : Parse (Option α) := fun rest =>
  match p rest with
  | .ok (a, more) => .ok (some a, more)
  | .error .tooDeep => .error .tooDeep
  | .error (.expected _ _) => .ok (none, rest)

/-- Readings between commas, at most one more than the given number. -/
def separatedAtMost {α : Type} (p : Parse α) : Nat → Parse (List α)
  | 0 => do
    let a ← p
    pure [a]
  | n + 1 => do
    let a ← p
    if ← symbol "," then do
      let more ← separatedAtMost p n
      pure (a :: more)
    else pure [a]

/-- One or more readings between commas. -/
def separated {α : Type} (p : Parse α) : Parse (List α) := fun rest =>
  separatedAtMost p rest.length rest

/-- Any number of readings, as long as there is another one, at most the given number. -/
def whileSomeAtMost {α : Type} (p : Parse (Option α)) : Nat → Parse (List α)
  | 0 => pure []
  | n + 1 => do
    match ← p with
    | some a => do
      let more ← whileSomeAtMost p n
      pure (a :: more)
    | none => pure []

/-- Any number of readings, as long as there is another one. -/
def whileSome {α : Type} (p : Parse (Option α)) : Parse (List α) := fun rest =>
  whileSomeAtMost p rest.length rest

/-- A reading between parentheses. -/
def parenthesised {α : Type} (p : Parse α) : Parse α := do
  expectSymbol "("
  let a ← p
  expectSymbol ")"
  pure a

/-- A reading, if a keyword comes next. -/
def afterKeyword? {α : Type} (key : String) (p : Parse α) : Parse (Option α) := do
  if ← keyword key then some <$> p else pure none

/-- A reading, if several keywords come next. -/
def afterKeywords? {α : Type} (keys : List String) (p : Parse α) : Parse (Option α) := do
  if ← keywords keys then some <$> p else pure none

/-- A reading, if a punctuation mark comes next. -/
def afterSymbol? {α : Type} (text : String) (p : Parse α) : Parse (Option α) := do
  if ← symbol text then some <$> p else pure none

end Parse

end EntityQuery.ConditionText
