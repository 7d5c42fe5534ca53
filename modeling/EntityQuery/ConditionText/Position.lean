import EntityQuery.ConditionText.Statement
import EntityQuery.QueryError
import EntityQuery.Unicode.Blank

/-!
# Positions in query text

Errors name positions by the number of bytes in front of them. An expression that holds a name is
placed by the text its names cover. An expression without any name is searched for in its canonical
spelling, and counts as the start of the text where it does not occur. Clauses are searched for by
their keywords.
-/

namespace EntityQuery.ConditionText

/-- The bytes of the text in front of a location in its statement. -/
def textOffset (text : List Char) (l : Location) : Nat :=
  min (byteOffset (statementStart.toList ++ text) l - byteLength statementStart.toList)
    (byteLength text)

/-- The bytes in front of the first occurrence of a part. -/
def firstOccurrence (part : List Char) : List Char → Option Nat
  | [] => if part.isEmpty then some 0 else none
  | c :: cs =>
    if part.isPrefixOf (c :: cs) then some 0
    else (firstOccurrence part cs).map (c.utf8Size + ·)

/-- What is left of a text behind some bytes. -/
def dropBytes : Nat → List Char → List Char
  | 0, cs => cs
  | _ + 1, [] => []
  | n + 1, c :: cs => dropBytes (n + 1 - c.utf8Size) cs

/-- The position of an expression. -/
def Expr.position (text : List Char) (e : Expr) : Nat :=
  match e.span with
  | some extent => textOffset text extent.first
  | none => (firstOccurrence e.text.toList text).getD 0

/-- The position of the operator behind an expression: the first character behind it that is no
blank. -/
def operatorPosition (text : List Char) (left : Expr) : Nat :=
  match left.span with
  | some extent =>
    let after := textOffset text extent.last
    after + byteLength ((dropBytes after text).takeWhile Unicode.isBlank)
  | none => left.position text

/-- Whether a character can be part of a word that is searched for. -/
def isKeywordPart (c : Char) : Bool := c.isAlphanum || c == '_'

/-- The offsets at which a part of a text occurs, from left to right, where no occurrence starts
inside of the one before it. Some characters, which belong to that one, are still to be skipped, and
the text has an offset itself. -/
def occurrences (part : List Char) : (skipped offset : Nat) → List Char → List Nat
  | _, offset, [] => if part.isEmpty then [offset] else []
  | skipped + 1, offset, c :: cs => occurrences part skipped (offset + c.utf8Size) cs
  | 0, offset, c :: cs =>
    if part.isPrefixOf (c :: cs) then
      offset :: occurrences part (part.length - 1) (offset + c.utf8Size) cs
    else occurrences part 0 (offset + c.utf8Size) cs

/-- The bytes of a text. -/
def bytesOf (text : List Char) : List UInt8 := text.flatMap String.utf8EncodeChar

/-- Whether a byte is a character that can be part of a word. -/
def isWordByte (b : UInt8) : Bool := isKeywordPart (Char.ofUInt8 b)

/-- Whether the byte in front of an index is part of a word, as none is at the start. There is no
answer where the bytes have no such index. -/
def wordBefore? (bytes : List UInt8) (index : Nat) : Option Bool :=
  if index = 0 then some false else bytes[index - 1]?.map isWordByte

/-- Whether the byte at an index is part of a word, as none is at the end. There is no answer where
the bytes have no such index. -/
def wordAt? (bytes : List UInt8) (index : Nat) : Option Bool :=
  if index = bytes.length then some false else bytes[index]?.map isWordByte

/-- Whether the bytes from one index to another are a whole word, with no part of a word on either
side. -/
def isWholeWord? (bytes : List UInt8) (start stop : Nat) : Option Bool := do
  if ← wordBefore? bytes start then return false
  return !(← wordAt? bytes stop)

/-- The offset of the first occurrence of a keyword as a whole word. -/
def wordOffset? (text key : List Char) : Option Nat :=
  let bytes := bytesOf text
  (occurrences key 0 0 text).find? fun start =>
    isWholeWord? bytes start (start + byteLength key) == some true

/-- The position of the first of some keywords in capital letters, or of the end of the text; the
text may have them in letters of any case. -/
def keywordPosition (keys : List String) (text : List Char) : Nat :=
  let capital := text.map Char.toUpper
  (keys.filterMap fun key => wordOffset? capital key.toList).min?.getD (byteLength text)

/-- The error for a text that cannot be read. What was expected is told without blanks at its
ends. -/
def Failure.toQueryError (text : List Char) : Failure → QueryError
  | tooDeep => .syntaxError 0 "a less deeply nested condition"
  | expected what place =>
    .syntaxError ((place.map (textOffset text)).getD (byteLength text)) (Unicode.trimText what)

end EntityQuery.ConditionText
