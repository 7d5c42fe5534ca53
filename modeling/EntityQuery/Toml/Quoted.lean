import EntityQuery.TextReader

/-!
# Quoted texts of settings files

A text stands between quotes on one line, or between triple quotes over several lines. Double quotes
allow escapes with a backslash, single quotes take every character as it is. Control characters,
apart from tabs, never stand for themselves.
-/

namespace EntityQuery.Toml

open TextReader

/-- A character that stands for itself, quotes and backslashes apart. -/
def isPlain (c : Char) : Bool := c == '\t' || (0x20 ≤ c.toNat && c.toNat != 0x7F)

/-- The blanks within a line. -/
def isBlank (c : Char) : Bool := c == ' ' || c == '\t'

/-- The rest of a text after a line break, if one is next. -/
def lineBreak? : List Char → Option (List Char)
  | '\n' :: rest | '\r' :: '\n' :: rest => some rest
  | _ => none

/-- The number that the given number of hexadecimal digits spell, after what has been read. -/
def hexNumber? : Nat → Nat → TextReader Nat
  | 0, read, cs => some (read, cs)
  | _ + 1, _, [] => none
  | n + 1, read, c :: cs => (hexValue? c).bind fun d => hexNumber? n (16 * read + d) cs

/-- The character of a code point of the given number of hexadecimal digits. -/
def codePoint? (digits : Nat) : TextReader Char := fun cs => do
  let (n, rest) ← hexNumber? digits 0 cs
  if n.isValidChar then some (Char.ofNat n, rest) else none

/-- The character that an escape stands for, after its backslash. -/
def escape? : TextReader Char
  | 'b' :: rest => some ('\x08', rest)
  | 't' :: rest => some ('\t', rest)
  | 'n' :: rest => some ('\n', rest)
  | 'f' :: rest => some ('\x0c', rest)
  | 'r' :: rest => some ('\r', rest)
  | '"' :: rest => some ('"', rest)
  | '\\' :: rest => some ('\\', rest)
  | 'u' :: rest => codePoint? 4 rest
  | 'U' :: rest => codePoint? 8 rest
  | _ => none

/-- What follows blanks and line breaks. The first argument bounds their number. -/
def skipLines : Nat → List Char → List Char
  | 0, cs => cs
  | n + 1, cs =>
    match lineBreak? cs with
    | some rest => skipLines n rest
    | none =>
      match cs with
      | c :: rest => if isBlank c then skipLines n rest else c :: rest
      | [] => []

/-- What follows a backslash at the end of a line: it swallows the line break, and all blanks and
line breaks after it. -/
def continuation? (cs : List Char) : Option (List Char) :=
  (lineBreak? (cs.dropWhile isBlank)).map fun rest => skipLines rest.length rest

/-- The characters of a text on one line, up to its closing quote. The first argument bounds their
number. -/
def lineTail (quote : Char) : Nat → TextReader (List Char)
  | 0, _ => none
  | _ + 1, [] => none
  | n + 1, c :: cs =>
    if c = quote then some ([], cs)
    else if c = '\\' && quote == '"' then do
      let (e, rest) ← escape? cs
      let (text, rest) ← lineTail quote n rest
      some (e :: text, rest)
    else if isPlain c then do
      let (text, rest) ← lineTail quote n cs
      some (c :: text, rest)
    else none

/-- The characters of a text over several lines, up to its closing quotes. Up to two quotes may
stand in the text, also in front of the closing ones. The first argument bounds the number of
characters. -/
def blockTail (quote : Char) : Nat → TextReader (List Char)
  | 0, _ => none
  | _ + 1, [] => none
  | n + 1, c :: cs =>
    if c = quote then
      let more := (cs.takeWhile (· == quote)).length
      let rest := cs.dropWhile (· == quote)
      if more < 2 then do
        let (text, rest) ← blockTail quote n rest
        some (List.replicate (more + 1) quote ++ text, rest)
      else if more < 5 then some (List.replicate (more - 2) quote, rest)
      else none
    else
      match lineBreak? (c :: cs) with
      | some rest => do
        let (text, rest) ← blockTail quote n rest
        some ('\n' :: text, rest)
      | none =>
        if c = '\\' && quote == '"' then
          match continuation? cs with
          | some rest => blockTail quote n rest
          | none => do
            let (e, rest) ← escape? cs
            let (text, rest) ← blockTail quote n rest
            some (e :: text, rest)
        else if isPlain c then do
          let (text, rest) ← blockTail quote n cs
          some (c :: text, rest)
        else none

/-- A text on one line, from its opening quote on. -/
def lineText? : TextReader String
  | c :: cs =>
    if c = '"' || c = '\'' then
      (lineTail c (cs.length + 1) cs).map fun (text, rest) => (String.ofList text, rest)
    else none
  | [] => none

/-- A text over several lines, after its opening quotes. A line break right after them is left
out. -/
def blockText? (quote : Char) : TextReader String := fun cs =>
  let cs := (lineBreak? cs).getD cs
  (blockTail quote (cs.length + 1) cs).map fun (text, rest) => (String.ofList text, rest)

/-- A quoted text of either kind. -/
def quoted? : TextReader String
  | '"' :: '"' :: '"' :: rest => blockText? '"' rest
  | '\'' :: '\'' :: '\'' :: rest => blockText? '\'' rest
  | cs => lineText? cs

@[simp] theorem lineBreak?_nil : lineBreak? [] = none := rfl

@[simp] theorem lineBreak?_newline (cs : List Char) : lineBreak? ('\n' :: cs) = some cs := rfl

end EntityQuery.Toml
