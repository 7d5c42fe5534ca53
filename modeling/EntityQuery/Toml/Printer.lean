import EntityQuery.Json.Printer

/-!
# Writing settings files

The text of a file, line by line. A text stands between double quotes if nothing in it has to be
escaped, otherwise in the first of the other forms that can hold it without escapes; where none
can, it is escaped between double quotes, over several lines if it has line breaks. Lists of two or
more items have a line for each.
-/

namespace EntityQuery.Toml

/-- The greatest number of equal characters in a row. -/
def longestRun (c : Char) (cs : List Char) : Nat :=
  (cs.foldl (fun (run, longest) x =>
    if x = c then (run + 1, max longest (run + 1)) else (0, longest)) (0, 0)).2

/-- Whether a character stands for itself in no text: a control character other than a tab or a
line break. -/
def isControl (c : Char) : Bool :=
  (c.toNat < 0x20 && c != '\t' && c != '\n') || c.toNat == 0x7F

/-- The ways to quote a text. -/
inductive Quotes where
  | basic | literal | basicBlock | literalBlock
  deriving DecidableEq, Repr

namespace Quotes

/-- How a text is quoted. -/
def choose (cs : List Char) : Quotes :=
  let controls := cs.any isControl
  let breaks := cs.contains '\n'
  let backslashes := cs.contains '\\'
  if !controls && !breaks && !backslashes && !cs.contains '"' then basic
  else if !controls && !breaks && !cs.contains '\'' then literal
  else if !controls && !backslashes && longestRun '"' cs ≤ 2 then basicBlock
  else if !controls && longestRun '\'' cs ≤ 2 then literalBlock
  else if breaks then basicBlock
  else basic

/-- The quotes themselves. -/
def marks : Quotes → List Char
  | basic => ['"']
  | literal => ['\'']
  | basicBlock => ['"', '"', '"']
  | literalBlock => ['\'', '\'', '\'']

/-- Whether a text may have several lines. -/
def isBlock : Quotes → Bool
  | basicBlock | literalBlock => true
  | _ => false

end Quotes

/-- A digit of a code point, large. -/
def codeDigit (n : Nat) : Char := (Json.hexDigit (n % 16)).toUpper

/-- A character other than a quote between double quotes. Line breaks stand for themselves in a text
of several lines. -/
def escapeChar (block : Bool) (c : Char) : List Char :=
  match c with
  | '\x08' => ['\\', 'b']
  | '\t' => ['\\', 't']
  | '\n' => if block then ['\n'] else ['\\', 'n']
  | '\x0c' => ['\\', 'f']
  | '\r' => ['\\', 'r']
  | '\\' => ['\\', '\\']
  | c => if isControl c then ['\\', 'u', '0', '0', codeDigit (c.toNat / 16), codeDigit c.toNat]
    else [c]

/-- Characters between double quotes. A quote stands for itself as long as it leaves no more than
the allowed number in a row; the second argument counts how many are left. -/
def escaped (block : Bool) (allowed : Nat) : Nat → List Char → List Char
  | _, [] => []
  | left, c :: cs =>
    if c = '"' then
      match left with
      | 0 => '\\' :: '"' :: escaped block allowed allowed cs
      | left + 1 => '"' :: escaped block allowed left cs
    else escapeChar block c ++ escaped block allowed allowed cs

/-- Characters between the quotes chosen for them. -/
def Quotes.contents (q : Quotes) (cs : List Char) : List Char :=
  match q with
  | basic => escaped false 0 0 cs
  | basicBlock => escaped true 2 2 cs
  | literal | literalBlock => cs

/-- A text between quotes. A text of several lines begins on a line of its own. -/
def quote (s : String) : String :=
  let cs := s.toList
  let q := Quotes.choose cs
  let start := if q.isBlock && cs.contains '\n' then ['\n'] else []
  String.ofList (q.marks ++ start ++ q.contents cs ++ q.marks)

/-- A value of a setting. -/
inductive Setting where
  | text (s : String)
  | number (n : Nat)
  | flag (b : Bool)
  | texts (items : List String)
  deriving DecidableEq, Repr

/-- A line of a file. -/
inductive Line where
  | entry (key : String) (value : Setting)
  /-- The header of a table. -/
  | table (path : List String)
  /-- The header of the next item of a list of tables. -/
  | item (path : List String)
  deriving DecidableEq, Repr

/-- The text of a value. -/
def Setting.render : Setting → String
  | .text s => quote s
  | .number n => toString n
  | .flag b => if b then "true" else "false"
  | .texts [] => "[]"
  | .texts [s] => "[" ++ quote s ++ "]"
  | .texts items => "[\n" ++ String.join (items.map fun s => "    " ++ quote s ++ ",\n") ++ "]"

/-- The text of a line. A header comes after an empty line. -/
def Line.render : Line → String
  | entry key value => key ++ " = " ++ value.render ++ "\n"
  | table path => "\n[" ++ ".".intercalate path ++ "]\n"
  | item path => "\n[[" ++ ".".intercalate path ++ "]]\n"

/-- The text of a file. -/
def textOfLines (lines : List Line) : String := String.join (lines.map Line.render)

@[simp] theorem escaped_nil (block : Bool) (allowed left : Nat) :
    escaped block allowed left [] = [] := rfl

end EntityQuery.Toml
