import EntityQuery.ConditionText.Escape
import EntityQuery.Unicode.Blank
import EntityQuery.Unicode.Letter

/-!
# Reading tokens

A text is split into tokens from left to right; blanks and comments separate tokens and are
dropped. Every step looks at the characters that are left and tells the token and how many
characters it takes, so a text is used up in steps of at least one character.
-/

namespace EntityQuery.ConditionText

/-- A token, or nothing for a blank or a comment, and the number of characters taken. -/
abbrev Piece : Type := Option Token × Nat

/-- Whether a word can start with a character. -/
def isWordStart (c : Char) : Bool := Unicode.isLetter c || c == '_'

/-- Whether a word can go on with a character. -/
def isWordPart (c : Char) : Bool := Unicode.isLetter c || c.isDigit || c == '$' || c == '_'

/-- Whether a character can be part of an operator that the language does not have. -/
def isOperatorPart (c : Char) : Bool :=
  ['+', '-', '*', '/', '<', '>', '=', '~', '!', '@', '#', '%', '^', '&', '|', '`', '?'].contains c

/-- Punctuation or an operator of the language. -/
def symbolPiece (text : String) : Except ContentFault Piece :=
  .ok (some (.symbol text), text.length)

/-- An operator that operator characters right behind it turn into another one. -/
def operatorPiece (text : String) (rest : List Char) : Except ContentFault Piece :=
  match rest.takeWhile isOperatorPart with
  | [] => symbolPiece text
  | more =>
    .ok (some (.customOperator (text ++ String.ofList more)), text.length + more.length)

/-- A word that starts with the given character. -/
def wordPiece (first : Char) (rest : List Char) : Except ContentFault Piece :=
  let word := first :: rest.takeWhile isWordPart
  .ok (some (.bareWord (String.ofList word)), word.length)

/-- A quoted text whose opening quote comes after `lead` characters. -/
def quotationPiece (kind : Quotation) (lead : Nat) (contents : Option (List Char × Nat))
    (message : String) (place : Nat) : Except ContentFault Piece :=
  match contents with
  | some (s, n) => .ok (some (.quotation kind (String.ofList s)), lead + 1 + n)
  | none => .error (message, place)

/-- The message for a text that is not closed. -/
def unterminated : String := "Unterminated string literal"

/-- A quoted word. -/
def quotedWordPiece (rest : List Char) : Except ContentFault Piece :=
  match plainContents '"' rest with
  | some (s, n) => .ok (some (.quotedWord (String.ofList s)), n + 1)
  | none => .error ("Expected close delimiter '\"' before EOF.", 0)

/-- The number of characters of a comment up to the end of its line. -/
def lineComment : List Char → Nat
  | [] => 0
  | c :: cs => if c = '\n' then 1 else lineComment cs + 1

/-- The number of characters up to the end of a comment in which comments may nest, given how many
are open and the character before. -/
def blockComment : Nat → Char → List Char → Option Nat
  | _, _, [] => none
  | depth, last, c :: cs =>
    let depth := if last = '/' ∧ c = '*' then depth + 1 else depth
    if last = '*' ∧ c = '/' then
      if depth = 1 then some 1 else (blockComment (depth - 1) c cs).map (· + 1)
    else (blockComment depth c cs).map (· + 1)

/-- The exponent of a number: its mark and an optional sign count only before a digit. -/
def exponentDigits : List Char → List Char
  | e :: cs =>
    if e == 'e' || e == 'E' then
      let (sign, cs) := match cs with
        | '+' :: rest => (['+'], rest)
        | '-' :: rest => (['-'], rest)
        | _ => ([], cs)
      match cs.takeWhile Char.isDigit with
      | [] => []
      | digits => e :: (sign ++ digits)
    else []
  | [] => []

/-- The point and the digits behind it of a number, where a point comes next. -/
def fractionDigits : List Char → List Char
  | '.' :: more => '.' :: more.takeWhile Char.isDigit
  | _ => []

/-- A number, or a point that belongs to none. -/
def numberPiece (cs : List Char) : Except ContentFault Piece :=
  let whole := cs.takeWhile Char.isDigit
  match whole, cs.drop whole.length with
  | ['0'], 'x' :: rest =>
    let digits := rest.takeWhile isHex
    .ok (some (.quotation .hexadecimal (String.ofList digits)), 2 + digits.length)
  | _, rest =>
    let mantissa := whole ++ fractionDigits rest
    if mantissa == ['.'] then symbolPiece "."
    else
      let digits := mantissa ++ exponentDigits (cs.drop mantissa.length)
      let long := (cs.drop digits.length).head? == some 'L'
      .ok (some (.number (String.ofList digits) long), digits.length + if long then 1 else 0)

/-- The contents up to two dollar signs, and the characters used. -/
def dollarContents : List Char → Option (List Char × Nat)
  | '$' :: '$' :: _ => some ([], 2)
  | c :: cs => (dollarContents cs).map fun (s, n) => (c :: s, n + 1)
  | [] => none

/-- The contents up to a tag between dollar signs, and the characters used. Where the start of a
tag turns out to be something else, reading goes on after what has been compared. The first
argument bounds the number of characters to come. -/
def taggedContents (tag : List Char) : Nat → List Char → Option (List Char × Nat)
  | 0, _ => none
  | fuel + 1, cs =>
    let body := cs.takeWhile (· != '$')
    match cs.drop body.length with
    | [] => none
    | _ :: rest =>
      let same := ((rest.zip tag).takeWhile fun (c, t) => c = t).length
      if same = tag.length then
        if (rest.drop same).head? = some '$' then some (body, body.length + 1 + same + 1)
        else
          (taggedContents tag fuel (rest.drop same)).map fun (s, n) =>
            (body ++ '$' :: rest.take same ++ s, body.length + 1 + same + n)
      else if rest.length ≤ same then none
      else
        (taggedContents tag fuel (rest.drop (same + 1))).map fun (s, n) =>
          (body ++ '$' :: rest.take (same + 1) ++ s, body.length + 1 + (same + 1) + n)

/-- What starts with a dollar sign: a text between dollar signs, with or without a tag, or a
placeholder. -/
def dollarPiece (rest : List Char) : Except ContentFault Piece :=
  match rest with
  | '$' :: more =>
    match dollarContents more with
    | some (s, n) => .ok (some (.dollarQuotation none (String.ofList s)), n + 2)
    | none => .error ("Unterminated dollar-quoted string", rest.length + 1)
  | _ =>
    let tag := rest.takeWhile fun c => Unicode.isLetterOrNumeral c || c == '_'
    match rest.drop tag.length with
    | '$' :: more =>
      match taggedContents tag (more.length + 1) more with
      | some (s, n) =>
        .ok (some (.dollarQuotation (some (String.ofList tag)) (String.ofList s)),
          tag.length + 2 + n)
      | none => .error ("Unterminated dollar-quoted, expected $", rest.length + 1)
    | _ => .ok (some (.placeholder (String.ofList ('$' :: tag))), tag.length + 1)

/-- What starts with an operator character or punctuation. -/
def operatorStart : List Char → Except ContentFault Piece
  | '-' :: '>' :: '>' :: r => operatorPiece "->>" r
  | '-' :: '>' :: r => operatorPiece "->" r
  | '-' :: r => operatorPiece "-" r
  | '|' :: '|' :: '/' :: r => operatorPiece "||/" r
  | '|' :: '|' :: r => operatorPiece "||" r
  | '|' :: '/' :: r => operatorPiece "|/" r
  | '|' :: r => operatorPiece "|" r
  | '=' :: '>' :: _ => symbolPiece "=>"
  | '=' :: '=' :: _ => symbolPiece "=="
  | '!' :: '=' :: _ => .ok (some (.symbol "<>"), 2)
  | '!' :: '!' :: _ => symbolPiece "!!"
  | '!' :: '~' :: '*' :: _ => symbolPiece "!~*"
  | '!' :: '~' :: '~' :: '*' :: _ => symbolPiece "!~~*"
  | '!' :: '~' :: '~' :: _ => symbolPiece "!~~"
  | '!' :: '~' :: _ => symbolPiece "!~"
  | '<' :: '=' :: '>' :: r => operatorPiece "<=>" r
  | '<' :: '=' :: r => operatorPiece "<=" r
  | '<' :: '>' :: r => operatorPiece "<>" r
  | '<' :: '<' :: r => operatorPiece "<<" r
  | '<' :: '@' :: r => operatorPiece "<@" r
  | '<' :: r => operatorPiece "<" r
  | '>' :: '=' :: r => operatorPiece ">=" r
  | '>' :: '>' :: r => operatorPiece ">>" r
  | '>' :: r => operatorPiece ">" r
  | ':' :: ':' :: _ => symbolPiece "::"
  | ':' :: '=' :: _ => symbolPiece ":="
  | '&' :: '&' :: r => operatorPiece "&&" r
  | '&' :: r => operatorPiece "&" r
  | '^' :: '@' :: _ => symbolPiece "^@"
  | '~' :: '*' :: r => operatorPiece "~*" r
  | '~' :: '~' :: '*' :: r => operatorPiece "~~*" r
  | '~' :: '~' :: r => operatorPiece "~~" r
  | '~' :: r => operatorPiece "~" r
  | '#' :: '-' :: r => operatorPiece "#-" r
  | '#' :: '>' :: '>' :: r => operatorPiece "#>>" r
  | '#' :: '>' :: r => operatorPiece "#>" r
  | '#' :: r => operatorPiece "#" r
  | '@' :: '>' :: _ => symbolPiece "@>"
  | '@' :: '?' :: _ => symbolPiece "@?"
  | '@' :: '@' :: _ => symbolPiece "@@"
  | '?' :: '|' :: _ => symbolPiece "?|"
  | '?' :: '&' :: _ => symbolPiece "?&"
  | '?' :: _ :: _ => .ok (some (.symbol "?"), 2)
  | '%' :: c :: r => if Unicode.isBlank c then symbolPiece "%" else operatorPiece "%" (c :: r)
  | c :: _ =>
    if ['/', '+', '*', '=', '!', ':', '^', '@', '?', '%', '(', ')', ',', ';', '\\', '[', ']',
        '\x7b', '\x7d'].contains c then
      symbolPiece (String.singleton c)
    else .ok (some (.other c), 1)
  | [] => .ok (none, 1)

/-- A quoted text whose kind is told by a letter in front. -/
def markedQuotation? : List Char → Option (Except ContentFault Piece)
  | c :: '\'' :: rest =>
    if c == 'b' || c == 'B' then
      some (quotationPiece .byteSingle 1 (plainContents '\'' rest) unterminated 1)
    else if c == 'n' || c == 'N' then
      some (quotationPiece .national 1 (backslashContents '\'' rest) unterminated 1)
    else if c == 'e' || c == 'E' then
      some (quotationPiece .escaped 1 (escapedContents (rest.length + 1) rest)
        "Unterminated encoded string literal" 0)
    else if c == 'x' || c == 'X' then
      some (quotationPiece .hexadecimal 1 (backslashContents '\'' rest) unterminated 1)
    else none
  | c :: '"' :: rest =>
    if c == 'b' || c == 'B' then
      some (quotationPiece .byteDouble 1 (plainContents '"' rest) unterminated 1)
    else none
  | c :: '&' :: '\'' :: rest =>
    if c == 'u' || c == 'U' then
      match codePointContents (rest.length + 1) 0 rest with
      | .ok (s, n) => some (.ok (some (.quotation .unicode (String.ofList s)), n + 3))
      | .error (message, n) => some (.error (message, n + 3))
    else none
  | _ => none

/-- The piece that a text starts with, or what is wrong after how many characters. -/
def pieceAt (cs : List Char) : Except ContentFault Piece :=
  match markedQuotation? cs with
  | some piece => piece
  | none =>
    match cs with
    | [] => .ok (none, 1)
    | '-' :: '-' :: rest => .ok (none, 2 + lineComment rest)
    | '/' :: '*' :: rest =>
      match blockComment 1 ' ' rest with
      | some n => .ok (none, 2 + n)
      | none => .error ("Unexpected EOF while in a multi-line comment", cs.length)
    | '\'' :: rest => quotationPiece .plain 0 (plainContents '\'' rest) unterminated 0
    | '"' :: rest => quotedWordPiece rest
    | '$' :: rest => dollarPiece rest
    | c :: rest =>
      if Unicode.isBlank c then .ok (none, 1)
      else if c.isDigit || c == '.' then numberPiece cs
      else if isWordStart c then wordPiece c rest
      else operatorStart cs

/-- The tokens of the characters that start at a location. The first argument bounds the number of
steps. -/
def lexFrom : Nat → Location → List Char → Except Failure (List Lexeme)
  | 0, _, _ => .ok []
  | _ + 1, _, [] => .ok []
  | fuel + 1, l, c :: cs =>
    match pieceAt (c :: cs) with
    | .error (message, n) =>
      .error (.expected message (some (l.advanceAll ((c :: cs).take n))))
    | .ok (token?, n) =>
      let next := l.advanceAll ((c :: cs).take n)
      match lexFrom fuel next ((c :: cs).drop n) with
      | .error e => .error e
      | .ok rest =>
        match token? with
        | some token => .ok (⟨token, ⟨l, next⟩⟩ :: rest)
        | none => .ok rest

/-- The tokens of a text whose first character is at the given location. -/
def lex (l : Location) (cs : List Char) : Except Failure (List Lexeme) :=
  lexFrom (cs.length + 1) l cs

@[simp] theorem lex_nil (l : Location) : lex l [] = .ok [] := rfl

end EntityQuery.ConditionText
