import EntityQuery.ConditionText.Fragment
import EntityQuery.ConditionText.Token

/-!
# Expressions of query text

An expression as it is read, before it is narrowed down to conditions. The forms that conditions
are made of have constructors of their own. Of every other form only two things matter, because it
is going to be refused: where its names stand in the text, and how it is written in canonical
spelling.
-/

namespace EntityQuery.ConditionText

/-- A name, and where it stands. -/
structure Ident where
  value : String
  quote : Option Char
  span : Span
  deriving DecidableEq, Repr

/-- A text in which the quotes are written twice, unless a backslash stands in front. -/
def doubleQuotes (quote last : Char) : List Char → List Char
  | [] => []
  | [c] => if c = quote ∧ last ≠ '\\' then [c, c] else [c]
  | c :: d :: rest =>
    if c = quote then
      if last = '\\' then c :: doubleQuotes quote last (d :: rest)
      else if d = quote then c :: d :: doubleQuotes quote c rest
      else c :: c :: doubleQuotes quote c (d :: rest)
    else c :: doubleQuotes quote c (d :: rest)

/-- A text between quotes. -/
def between (quote : Char) (s : String) : String :=
  String.ofList (quote :: (doubleQuotes quote '\x00' s.toList ++ [quote]))

namespace Ident

/-- The name as it is written. -/
def text (i : Ident) : String :=
  match i.quote with
  | none => i.value
  | some q => between q i.value

/-- The name as a part of the text. -/
def fragment (i : Ident) : Fragment := ⟨i.span, i.text⟩

end Ident

/-- Names joined by points. -/
def dotted (parts : List Ident) : String := ".".intercalate (parts.map Ident.text)

/-- The span of several names. -/
def identSpan (parts : List Ident) : Span := Span.unions (parts.map (·.span))

/-- Names joined by points as a part of the text. -/
def dottedFragment (parts : List Ident) : Fragment := ⟨identSpan parts, dotted parts⟩

/-- Names between commas as a part of the text. -/
def listedNames (names : List Ident) : Fragment := Fragment.listed (names.map Ident.fragment)

/-- A literal as it is read. -/
inductive Constant where
  | null
  | boolean (b : Bool)
  | number (digits : String) (long : Bool)
  | plainText (s : String)
  | escapedText (s : String)
  | placeholder (name : String)
  /-- A literal of any other kind, in its canonical spelling. -/
  | special (text : String)
  deriving DecidableEq, Repr

/-- A character of an escaped text in its canonical spelling. -/
def escapedSpelling : Char → List Char
  | '\'' => ['\\', '\'']
  | '\\' => ['\\', '\\']
  | '\n' => ['\\', 'n']
  | '\t' => ['\\', 't']
  | '\r' => ['\\', 'r']
  | c => [c]

/-- A character of a text of code points in its canonical spelling: outside ASCII it is written by
its code point. -/
def codePointSpelling (c : Char) : List Char :=
  let digits := (Nat.toDigits 16 c.toNat).map Char.toUpper
  let padded (width : Nat) : List Char := List.replicate (width - digits.length) '0' ++ digits
  if c = '\'' || c = '\\' then [c, c]
  else if c.toNat < 0x80 then [c]
  else if c.toNat < 0x10000 then '\\' :: padded 4
  else '\\' :: '+' :: padded 6

/-- The canonical spelling of a literal. -/
def Constant.text : Constant → String
  | null => "NULL"
  | boolean b => if b then "true" else "false"
  | number digits long => if long then digits ++ "L" else digits
  | plainText s => between '\'' s
  | escapedText s => "E'" ++ String.ofList (s.toList.flatMap escapedSpelling) ++ "'"
  | placeholder name => name
  | special text => text

/-- An operator between two expressions. -/
inductive BinaryOp where
  | and | or | eq | notEq | lt | ltEq | gt | gtEq
  /-- Any other operator, by its canonical spelling. -/
  | other (text : String)
  deriving DecidableEq, Repr

/-- The canonical spelling of an operator. -/
def BinaryOp.text : BinaryOp → String
  | and => "AND"
  | or => "OR"
  | eq => "="
  | notEq => "<>"
  | lt => "<"
  | ltEq => "<="
  | gt => ">"
  | gtEq => ">="
  | other text => text

/-- An operator in front of an expression. -/
inductive SignOp where
  | minus | plus
  /-- Any other operator, by its canonical spelling. -/
  | other (text : String)
  deriving DecidableEq, Repr

/-- The canonical spelling of an operator in front. -/
def SignOp.text : SignOp → String
  | minus => "-"
  | plus => "+"
  | other text => text

/-- An expression. -/
inductive Expr where
  | ident (name : Ident)
  | compound (parts : List Ident)
  | constant (c : Constant)
  | signed (op : SignOp) (operand : Expr)
  | binary (left : Expr) (op : BinaryOp) (right : Expr)
  | nested (inner : Expr)
  | like (negated any : Bool) (operand pattern : Expr) (escape : Option String)
  | inList (operand : Expr) (items : List Expr) (negated : Bool)
  | isNull (operand : Expr) (negated : Bool)
  /-- A query in parentheses. -/
  | subquery (query : Fragment)
  /-- Any other expression, of which only its span and its canonical spelling are kept. -/
  | other (fragment : Fragment)
  deriving Inhabited

namespace Expr

mutual

/-- The part of the text from the first name of an expression to its last one. -/
def span : Expr → Span
  | ident name => name.span
  | compound parts => identSpan parts
  | constant _ => .empty
  | signed _ operand => operand.span
  | binary left _ right => left.span.union right.span
  | nested inner => inner.span
  | like _ _ operand pattern _ => operand.span.union pattern.span
  | inList operand items _ => operand.span.union (spans items)
  | isNull operand _ => operand.span
  | subquery query => query.span
  | other fragment => fragment.span

/-- The part of the text from the first name of some expressions to their last one. -/
def spans : List Expr → Span
  | [] => .empty
  | e :: rest => e.span.union (spans rest)

end

/-- The words of a pattern test in front of its pattern. -/
def likeWords (word : String) (negated any : Bool) : String :=
  (if negated then " NOT " else " ") ++ word ++ if any then " ANY " else " "

/-- The words that tell the character that quotes the wildcards of a pattern. -/
def escapeWords : Option String → String
  | some c => " ESCAPE '" ++ c ++ "'"
  | none => ""

mutual

/-- The canonical spelling of an expression. -/
def text : Expr → String
  | ident name => name.text
  | compound parts => dotted parts
  | constant c => c.text
  | signed op operand => op.text ++ operand.text
  | binary left op right => left.text ++ " " ++ op.text ++ " " ++ right.text
  | nested inner => "(" ++ inner.text ++ ")"
  | like negated any operand pattern escape =>
    operand.text ++ likeWords "LIKE" negated any ++ pattern.text ++ escapeWords escape
  | inList operand items negated =>
    operand.text ++ (if negated then " NOT IN (" else " IN (") ++ ", ".intercalate (texts items) ++
      ")"
  | isNull operand negated => operand.text ++ if negated then " IS NOT NULL" else " IS NULL"
  | subquery query => "(" ++ query.text ++ ")"
  | other fragment => fragment.text

/-- The canonical spellings of some expressions. -/
def texts : List Expr → List String
  | [] => []
  | e :: rest => e.text :: texts rest

end

/-- Whether an expression is a query in parentheses. -/
def isSubquery : Expr → Bool
  | subquery _ => true
  | _ => false

/-- The expression as a part of the text. -/
def fragment (e : Expr) : Fragment := ⟨e.span, e.text⟩

/-- Expressions between commas as a part of the text. -/
def listed (es : List Expr) : Fragment := Fragment.listed (es.map fragment)

@[simp] theorem span_constant (c : Constant) : (constant c).span = none := by
  simp [span, Span.empty]

@[simp] theorem span_nested (e : Expr) : (nested e).span = e.span := by
  simp [span]

end Expr

end EntityQuery.ConditionText
