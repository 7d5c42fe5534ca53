import EntityQuery.Toml.Moment
import EntityQuery.Toml.Number
import EntityQuery.Toml.Quoted
import EntityQuery.Toml.Table

/-!
# Reading settings files

A file in the TOML notation is read into pieces, one for each entry or header, and the pieces are
put together to one object. Lists and inline tables nest less than eighty deep; the reader of a
level knows only the reader of the level inside it. A date or time is an object with a field of its
own.
-/

namespace EntityQuery.Toml

open TextReader

/-- What follows blanks within a line. -/
def skipBlanks (cs : List Char) : List Char := cs.dropWhile isBlank

/-- What follows blanks, line breaks and comments; the first argument tells whether a comment has
begun. A comment ends before a character that may not stand in it. -/
def skipGap : Bool → List Char → List Char
  | _, [] => []
  | _, '\n' :: cs | _, '\r' :: '\n' :: cs => skipGap false cs
  | true, c :: cs => if isPlain c then skipGap true cs else c :: cs
  | false, c :: cs =>
    if isBlank c then skipGap false cs
    else if c = '#' then skipGap true cs
    else c :: cs

/-- What follows the end of a line: blanks and a comment may come before it, and the end of the file
ends a line as well. -/
def lineEnd? (cs : List Char) : Option (List Char) :=
  let cs := match skipBlanks cs with
    | '#' :: rest => rest.dropWhile isPlain
    | cs => cs
  match cs with
  | [] => some []
  | cs => lineBreak? cs

/-- A character of a key without quotes. -/
def isKeyChar (c : Char) : Bool := c.isAlphanum || c == '-' || c == '_'

/-- One key, with or without quotes. -/
def simpleKey? : TextReader String
  | [] => none
  | c :: cs =>
    if isKeyChar c then
      some (String.ofList (c :: cs.takeWhile isKeyChar), cs.dropWhile isKeyChar)
    else lineText? (c :: cs)

/-- Keys with points between them: the ones in front of the last one, and the last one. The first
argument bounds the number of keys. -/
def dottedKey? : Nat → TextReader (List String × String)
  | 0, _ => none
  | n + 1, cs => do
    let (key, rest) ← simpleKey? (skipBlanks cs)
    match skipBlanks rest with
    | '.' :: rest => do
      let ((path, last), rest) ← dottedKey? n rest
      some ((key :: path, last), rest)
    | rest => some (([], key), rest)

/-- The greatest number of keys with points between them. -/
def maxKeys : Nat := 79

/-- An entry: a key, an equals sign and a value. -/
def entryLine? (value : TextReader Json) : TextReader Entry := fun cs => do
  let ((path, key), rest) ← dottedKey? maxKeys cs
  match rest with
  | '=' :: rest => do
    let (v, rest) ← value (skipBlanks rest)
    some (⟨path, key, v⟩, rest)
  | _ => none

/-- The items of a list after its opening bracket or a comma. The first argument bounds their
number. -/
def items (item : TextReader Json) : Nat → TextReader (List Json)
  | 0, _ => none
  | n + 1, cs =>
    match skipGap false cs with
    | ']' :: rest => some ([], rest)
    | cs => do
      let (v, rest) ← item cs
      match skipGap false rest with
      | ']' :: rest => some ([v], rest)
      | ',' :: rest => do
        let (vs, rest) ← items item n rest
        some (v :: vs, rest)
      | _ => none

/-- The entries of an inline table, of which there is at least one. The first argument bounds their
number. -/
def inlineEntries (value : TextReader Json) : Nat → TextReader (List Entry)
  | 0, _ => none
  | n + 1, cs => do
    let (e, rest) ← entryLine? value cs
    match skipBlanks rest with
    | '\x7d' :: rest => some ([e], rest)
    | ',' :: rest => do
      let (es, rest) ← inlineEntries value n rest
      some (e :: es, rest)
    | _ => none

/-- An inline table, after its opening brace. -/
def inlineTable (value : TextReader Json) : TextReader Json := fun cs =>
  match skipBlanks cs with
  | '\x7d' :: rest => some (.object [], rest)
  | cs => do
    let (es, rest) ← inlineEntries value (cs.length + 1) cs
    let t ← tableOf? es
    some (t, rest)

/-- What stands for any date or time. -/
def moment : Json := .object [("moment", .null)]

/-- A date, a time or a number. -/
def momentOrNumber? : TextReader Json := fun cs =>
  match moment? cs with
  | some rest => some (moment, rest)
  | none => number? cs

/-- A value that may contain the given number of levels of lists and inline tables. -/
def value? : Nat → TextReader Json
  | _, [] => none
  | levels, c :: cs =>
    if c = '"' || c = '\'' then (quoted? (c :: cs)).map fun (s, rest) => (.string s, rest)
    else if c = 't' then (word? ['r', 'u', 'e'] cs).map (.bool true, ·)
    else if c = 'f' then (word? ['a', 'l', 's', 'e'] cs).map (.bool false, ·)
    else if c = '[' then
      match levels with
      | 0 => none
      | inner + 1 =>
        (items (value? inner) (cs.length + 1) cs).map fun (vs, rest) => (.array vs, rest)
    else if c = '\x7b' then
      match levels with
      | 0 => none
      | inner + 1 => inlineTable (value? inner) cs
    else momentOrNumber? (c :: cs)

/-- The greatest number of levels of lists and inline tables. -/
def maxLevels : Nat := 79

/-- An entry or a header. -/
def statement? : TextReader Statement
  | '[' :: '[' :: cs => do
    let ((path, key), rest) ← dottedKey? maxKeys cs
    let rest ← word? [']', ']'] rest
    some (.item path key, rest)
  | '[' :: cs => do
    let ((path, key), rest) ← dottedKey? maxKeys cs
    let rest ← word? [']'] rest
    some (.table path key, rest)
  | cs => (entryLine? (value? maxLevels) cs).map fun (e, rest) => (.entry e, rest)

/-- The pieces of a file. The first argument bounds their number. -/
def statements? : Nat → List Char → Option (List Statement)
  | 0, _ => none
  | n + 1, cs =>
    match skipGap false cs with
    | [] => some []
    | cs => do
      let (s, rest) ← statement? cs
      let rest ← lineEnd? rest
      let more ← statements? n rest
      some (s :: more)

/-- The object that the text of a file spells, after an optional byte order mark. -/
def ofText? (text : String) : Option Json :=
  let cs := match text.toList with
    | '\uFEFF' :: rest => rest
    | cs => cs
  (statements? (cs.length + 1) cs).bind Assembly.ofStatements?

end EntityQuery.Toml
