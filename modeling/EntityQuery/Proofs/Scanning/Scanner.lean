/-!
# The scanner of PostgreSQL

How a server splits the text of a statement, as its lexical structure is documented for strings that
conform to the standard: a backslash in a plain text constant is a character like any other, and a
quote inside it is written twice. Everything that the server reads is split here, not only what
statements of queries are made of, since what follows a text decides where it ends: a text goes on
behind a line break, a comment swallows what is in it, and a mark in front changes how quotes are
read.

A piece is what is read at one place: a token, or a blank or a comment, with the number of further
characters that it takes. Names are kept as they are written. The character zero, which ends what a
server receives and is refused before, is a character like any other here.
-/

namespace EntityQuery.Scanner

/-- A token of a statement. -/
inductive Token where
  | name (text : String)
  | quotedName (text : String)
  /-- A plain text constant with the text that it denotes. -/
  | text (contents : String)
  /-- A constant with a mark in front, as it stands between its quotes. -/
  | markedText (mark contents : String)
  | number (digits : String)
  | parameter (digits : String)
  /-- An operator or a punctuation mark. -/
  | symbol (text : String)
  deriving DecidableEq, Repr

/-- A token, unless it is a blank or a comment, and the number of characters behind the first one
that belong to it. -/
abbrev Piece : Type := Option Token × Nat

/-! ## Characters -/

/-- Whether a character is a line break. -/
def isNewline (c : Char) : Bool := c = '\n' || c = '\r'

/-- Whether a character is a blank. -/
def isSpace (c : Char) : Bool := isNewline c || c = ' ' || c = '\t' || c = '\x0b' || c = '\x0c'

/-- Whether a name can start with a character. -/
def startsName (c : Char) : Bool := c.isAlpha || c = '_' || decide (0x80 ≤ c.toNat)

/-- Whether a name can go on with a character. -/
def continuesName (c : Char) : Bool := startsName c || c.isDigit || c = '$'

/-- The characters that operators consist of. -/
def operatorChars : List Char :=
  ['+', '-', '*', '/', '<', '>', '=', '~', '!', '@', '#', '%', '^', '&', '|', '`', '?']

/-- The characters in operators that may end with a sign. -/
def signChars : List Char := ['~', '!', '@', '#', '%', '^', '&', '|', '`', '?']

/-! ## Comments -/

/-- The length of the rest of a comment between marks, which may hold further ones. -/
def commentRest? (depth : Nat) : List Char → Option Nat
  | [] => none
  | '*' :: '/' :: rest =>
    match depth with
    | 0 => some 2
    | depth + 1 => (commentRest? depth rest).map (· + 2)
  | '/' :: '*' :: rest => (commentRest? (depth + 1) rest).map (· + 2)
  | _ :: rest => (commentRest? depth rest).map (· + 1)

/-! ## Texts -/

/-- What may stand between two parts of a text, as far as it has been read: blanks, or a comment up
to the end of its line. The flag says whether there has been a line break. -/
inductive Gap where
  | blank (broken : Bool)
  | dash (broken : Bool)
  | comment (broken : Bool)

/-- The gap with a further character, if it still is one. -/
def Gap.extend? (gap : Gap) (c : Char) : Option Gap :=
  match gap with
  | blank broken =>
    if isNewline c then some (blank true)
    else if isSpace c then some (blank broken)
    else if c = '-' then some (dash broken)
    else none
  | dash broken => if c = '-' then some (comment broken) else none
  | comment broken => if isNewline c then some (blank true) else some (comment broken)

/-- The number of characters up to the quote with which a text goes on behind a gap. -/
def resumption? (gap : Gap) : List Char → Option Nat
  | [] => none
  | c :: rest =>
    match gap, c with
    | .blank true, '\'' => some 1
    | gap, c => (gap.extend? c).bind fun gap => (resumption? gap rest).map (· + 1)

/-- How the quotes and backslashes in a text are read. -/
inductive Marking where
  /-- A quote inside is written twice. -/
  | plain
  /-- A quote inside is written twice or behind a backslash. -/
  | escaped
  /-- There is no quote inside. -/
  | bits
  deriving DecidableEq

/-- The contents of a text behind its first quote, and its length up to and including the last one.
The given number of characters belongs to what has been read already. -/
def textRest? (marking : Marking) : Nat → List Char → Option (List Char × Nat)
  | _, [] => none
  | skip + 1, _ :: rest => (textRest? marking skip rest).map fun (s, n) => (s, n + 1)
  | 0, c :: rest =>
    if c = '\'' then
      if rest.head? = some '\'' ∧ marking ≠ .bits then
        (textRest? marking 1 rest).map fun (s, n) => ('\'' :: s, n + 1)
      else
        match resumption? (.blank false) rest with
        | some gap => (textRest? marking gap rest).map fun (s, n) => (s, n + 1)
        | none => some ([], 1)
    else if c = '\\' ∧ marking = .escaped then
      match rest with
      | [] => none
      | d :: _ => (textRest? marking 1 rest).map fun (s, n) => (c :: d :: s, n + 1)
    else (textRest? marking 0 rest).map fun (s, n) => (c :: s, n + 1)

/-- The contents of a quoted name behind its first quote, and its length up to the last one. -/
def quotedNameRest? : Nat → List Char → Option (List Char × Nat)
  | _, [] => none
  | skip + 1, _ :: rest => (quotedNameRest? skip rest).map fun (s, n) => (s, n + 1)
  | 0, c :: rest =>
    if c = '"' then
      if rest.head? = some '"' then
        (quotedNameRest? 1 rest).map fun (s, n) => ('"' :: s, n + 1)
      else some ([], 1)
    else (quotedNameRest? 0 rest).map fun (s, n) => (c :: s, n + 1)

/-- What stands in front of the first occurrence of a text in another one. -/
def front? (stop : List Char) : List Char → Option (List Char)
  | [] => none
  | c :: rest =>
    if stop.isPrefixOf (c :: rest) then some [] else (front? stop rest).map (c :: ·)

/-- The piece of a marked text whose first quote has been read, with the length of its mark. -/
def markedPiece? (mark : String) (marking : Marking) (rest : List Char) : Option Piece :=
  (textRest? marking 0 rest).map fun (s, n) =>
    (some (.markedText mark (String.ofList s)), mark.length + n)

/-- The piece of a quoted name whose first quote has been read; an empty name is none. -/
def quotedNamePiece? (lead : Nat) (rest : List Char) : Option Piece :=
  match quotedNameRest? 0 rest with
  | some (s, n) => if s.isEmpty then none else some (some (.quotedName (String.ofList s)), lead + n)
  | none => none

/-- The piece at a dollar sign: a parameter, a text between tags, or the sign alone. -/
def dollarPiece? (rest : List Char) : Option Piece :=
  let digits := rest.takeWhile Char.isDigit
  let tag := rest.takeWhile fun c => startsName c || c.isDigit
  let behind := rest.drop tag.length
  if digits ≠ [] then
    if (rest.drop digits.length).head?.any startsName then none
    else some (some (.parameter (String.ofList digits)), digits.length)
  else if behind.head? = some '$' then
    let stop := '$' :: (tag ++ ['$'])
    (front? stop (behind.drop 1)).map fun s =>
      (some (.markedText (String.ofList stop) (String.ofList s)),
        tag.length + 1 + s.length + stop.length)
  else some (some (.symbol "$"), 0)

/-! ## Numbers -/

/-- The digits at the start of a text, with single underscores between them. -/
def digitRun (isDigit : Char → Bool) : List Char → List Char
  | [] => []
  | [c] => if isDigit c then [c] else []
  | c :: d :: rest =>
    if isDigit c then
      if d = '_' && rest.head?.any isDigit then c :: d :: digitRun isDigit rest
      else c :: digitRun isDigit (d :: rest)
    else []

/-- The digits that go with the mark of another base. -/
def basedDigits (mark : Char) : List Char → List Char :=
  let isHexadecimal (c : Char) : Bool :=
    c.isDigit || ('a' ≤ c && c ≤ 'f') || ('A' ≤ c && c ≤ 'F')
  let isOctal (c : Char) : Bool := '0' ≤ c && c ≤ '7'
  let isBinary (c : Char) : Bool := c = '0' || c = '1'
  match mark with
  | 'x' | 'X' => digitRun isHexadecimal
  | 'o' | 'O' => digitRun isOctal
  | 'b' | 'B' => digitRun isBinary
  | _ => fun _ => []

/-- The point and the digits behind it at the start of a text; two points are none. -/
def fractionRun : List Char → List Char
  | '.' :: '.' :: _ => []
  | '.' :: rest => '.' :: digitRun Char.isDigit rest
  | _ => []

/-- The exponent at the start of a text; without digits it is none. -/
def exponentRun : List Char → List Char
  | e :: rest =>
    if e = 'e' || e = 'E' then
      let sign := (rest.take 1).filter fun c => c = '+' || c = '-'
      let digits := digitRun Char.isDigit (rest.drop sign.length)
      if digits = [] then [] else e :: (sign ++ digits)
    else []
  | [] => []

/-- The number in another base at the start of a text; without digits it is none. -/
def basedRun : List Char → List Char
  | '0' :: mark :: '_' :: rest =>
    let digits := basedDigits mark rest
    if digits = [] then [] else '0' :: mark :: '_' :: digits
  | '0' :: mark :: rest =>
    let digits := basedDigits mark rest
    if digits = [] then [] else '0' :: mark :: digits
  | _ => []

/-- The characters of the number at the start of a text. -/
def numberRun (cs : List Char) : List Char :=
  if basedRun cs ≠ [] then basedRun cs
  else
    let whole := digitRun Char.isDigit cs
    let fraction := fractionRun (cs.drop whole.length)
    let exponent := exponentRun (cs.drop (whole ++ fraction).length)
    whole ++ fraction ++ exponent

/-- The piece of a number; a name must not follow it at once. -/
def numberPiece? (cs : List Char) : Option Piece :=
  let digits := numberRun cs
  if (cs.drop digits.length).head?.any fun c => startsName c || c.isDigit then none
  else some (some (.number (String.ofList digits)), digits.length - 1)

/-! ## Operators -/

/-- The characters of an operator up to the start of a comment. -/
def upToComment : List Char → List Char
  | [] => []
  | [c] => [c]
  | c :: d :: rest =>
    if (c = '-' && d = '-') || (c = '/' && d = '*') then [] else c :: upToComment (d :: rest)

/-- The piece of an operator. It ends where a comment starts, and with a sign only if it is the sign
or has one of the characters that no operator of the standard has. -/
def operatorPiece (c : Char) (rest : List Char) : Piece :=
  let run := upToComment (c :: rest.takeWhile (operatorChars.contains ·))
  let more := run.drop 1
  let kept :=
    if run.any (signChars.contains ·) then more
    else (more.reverse.dropWhile fun d => d = '+' || d = '-').reverse
  (some (.symbol (String.ofList (c :: kept))), kept.length)

/-- The piece of a punctuation mark or of any other character. -/
def punctuationPiece (c : Char) (rest : List Char) : Piece :=
  match c, rest.head? with
  | ':', some ':' => (some (.symbol "::"), 1)
  | ':', some '=' => (some (.symbol ":="), 1)
  | '.', some '.' => (some (.symbol ".."), 1)
  | c, _ => (some (.symbol (String.ofList [c])), 0)

/-! ## Statements -/

/-- The piece of a text or a quoted name that a letter in front of its quote marks. -/
def marked? : List Char → Option (Option Piece)
  | 'e' :: '\'' :: rest | 'E' :: '\'' :: rest => some (markedPiece? "E" .escaped rest)
  | 'b' :: '\'' :: rest | 'B' :: '\'' :: rest => some (markedPiece? "B" .bits rest)
  | 'x' :: '\'' :: rest | 'X' :: '\'' :: rest => some (markedPiece? "X" .bits rest)
  | 'u' :: '&' :: '\'' :: rest | 'U' :: '&' :: '\'' :: rest =>
    some (markedPiece? "U&" .plain rest)
  | 'u' :: '&' :: '"' :: rest | 'U' :: '&' :: '"' :: rest => some (quotedNamePiece? 2 rest)
  | _ => none

/-- The piece that starts with a character, if there is one. -/
def piece? (c : Char) (rest : List Char) : Option Piece :=
  match marked? (c :: rest) with
  | some piece => piece
  | none =>
    if isSpace c then some (none, 0)
    else if c = '-' && rest.head? = some '-' then
      some (none, (rest.takeWhile fun d => !isNewline d).length)
    else if c = '/' && rest.head? = some '*' then
      (commentRest? 0 (rest.drop 1)).map fun n => (none, n + 1)
    else if c = '\'' then
      (textRest? .plain 0 rest).map fun (s, n) => (some (.text (String.ofList s)), n)
    else if c = '"' then quotedNamePiece? 0 rest
    else if startsName c then
      let more := rest.takeWhile continuesName
      some (some (.name (String.ofList (c :: more))), more.length)
    else if c.isDigit || (c = '.' && rest.head?.any Char.isDigit) then numberPiece? (c :: rest)
    else if c = '$' then dollarPiece? rest
    else if operatorChars.contains c then some (operatorPiece c rest)
    else some (punctuationPiece c rest)

/-- The tokens of a text in at most so many pieces. -/
def tokensWithin : Nat → List Char → Option (List Token)
  | _, [] => some []
  | 0, _ :: _ => none
  | steps + 1, c :: rest => do
    let (token?, taken) ← piece? c rest
    let further ← tokensWithin steps (rest.drop taken)
    some (token?.toList ++ further)

/-- The tokens of a text, if it can be split into pieces. -/
def tokens (cs : List Char) : Option (List Token) := tokensWithin cs.length cs

example : tokens "SELECT 'it''s' -- 'no'\n FROM t".toList =
    some [.name "SELECT", .text "it's", .name "FROM", .name "t"] := by decide

end EntityQuery.Scanner
