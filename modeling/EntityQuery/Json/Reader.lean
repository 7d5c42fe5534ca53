import EntityQuery.Json
import EntityQuery.Double.Reader
import EntityQuery.TextReader

/-!
# Reading exchange text

Arrays and objects nest at most 127 deep, and this bound is what the recursion runs on: the reader
of a level knows only the reader of the level inside it.
-/

namespace EntityQuery.Json

open TextReader

/-- The blanks of exchange text. -/
def isSpace (c : Char) : Bool := c == ' ' || c == '\t' || c == '\n' || c == '\r'

/-- The characters after leading blanks. -/
def skipSpace (cs : List Char) : List Char := cs.dropWhile isSpace

/-- The number that four hexadecimal digits spell. -/
def unit? : List Char → Option (Nat × List Char)
  | a :: b :: c :: d :: rest => do
    let a ← hexValue? a
    let b ← hexValue? b
    let c ← hexValue? c
    let d ← hexValue? d
    some (((a * 16 + b) * 16 + c) * 16 + d, rest)
  | _ => none

/-- The character after `\u`: a unit of its own, or a pair of surrogates. -/
def codePoint? (cs : List Char) : Option (Char × List Char) := do
  let (high, rest) ← unit? cs
  if high < 0xD800 || 0xE000 ≤ high then some (Char.ofNat high, rest)
  else if 0xDC00 ≤ high then none
  else
    match rest with
    | '\\' :: 'u' :: more =>
      let (low, rest) ← unit? more
      if low < 0xDC00 || 0xE000 ≤ low then none
      else some (Char.ofNat (0x10000 + (high - 0xD800) * 0x400 + (low - 0xDC00)), rest)
    | _ => none

/-- The character that an escape of one letter stands for. -/
def simpleEscape? : Char → Option Char
  | '"' => some '"'
  | '\\' => some '\\'
  | '/' => some '/'
  | 'b' => some '\x08'
  | 'f' => some '\x0c'
  | 'n' => some '\n'
  | 'r' => some '\r'
  | 't' => some '\t'
  | _ => none

/-- The characters of a string up to its closing quote. The first argument bounds the number of
characters to come. -/
def stringTail : Nat → TextReader (List Char)
  | 0, _ => none
  | _ + 1, [] => none
  | _ + 1, '"' :: rest => some ([], rest)
  | n + 1, '\\' :: 'u' :: rest => do
    let (c, rest) ← codePoint? rest
    let (cs, rest) ← stringTail n rest
    some (c :: cs, rest)
  | n + 1, '\\' :: e :: rest => do
    let c ← simpleEscape? e
    let (cs, rest) ← stringTail n rest
    some (c :: cs, rest)
  | n + 1, c :: rest =>
    if c == '\\' || c.toNat < 0x20 then none
    else do
      let (cs, rest) ← stringTail n rest
      some (c :: cs, rest)

/-- A string, after its opening quote. -/
def string? (cs : List Char) : Option (String × List Char) :=
  (stringTail (cs.length + 1) cs).map fun (s, rest) => (String.ofList s, rest)

/-- Digits taken into sixty-four bits as far as they fit: the number they spell, how many of them
count, and how many are left out. -/
def wordDigits (read : Nat) : List Char → Nat × Nat × Nat
  | [] => (read, 0, 0)
  | c :: cs =>
    let next := 10 * read + (c.toNat - '0'.toNat)
    if next < Numeral.wordBound then
      let (n, used, dropped) := wordDigits next cs
      (n, used + 1, dropped)
    else (read, 0, cs.length + 1)

/-- A fraction: its digits and what follows; the point must be followed by a digit. -/
def fraction? : List Char → Option (Option (List Char) × List Char)
  | '.' :: cs =>
    let digits := cs.takeWhile Char.isDigit
    if digits.isEmpty then none else some (some digits, cs.dropWhile Char.isDigit)
  | cs => some (none, cs)

/-- An exponent and what follows; its mark must be followed by a digit, after an optional sign. -/
def exponentPart? : List Char → Option (Option Int × List Char)
  | c :: cs =>
    if c == 'e' || c == 'E' then
      let (negative, cs) := match cs with
        | '-' :: rest => (true, rest)
        | '+' :: rest => (false, rest)
        | _ => (false, cs)
      let digits := cs.takeWhile Char.isDigit
      if digits.isEmpty then none
      else
        let n : Int := Numeral.extend 0 digits
        some (some (if negative then -n else n), cs.dropWhile Char.isDigit)
    else some (none, c :: cs)
  | [] => some (none, [])

/-- The digits of a whole part: a zero stands alone. -/
def wholePart? (cs : List Char) : Option (List Char × List Char) :=
  match cs.takeWhile Char.isDigit with
  | [] => none
  | '0' :: _ :: _ => none
  | digits => some (digits, cs.dropWhile Char.isDigit)

/-- The number with the given parts. A whole number that fits sixty-four bits is an integer, apart
from a negative zero; digits past sixty-four bits are dropped from any other number. -/
def number? (negative : Bool) (whole : List Char) (fraction : Option (List Char))
    (exponent : Option Int) : Option Json :=
  let (read, _, dropped) := wordDigits 0 whole
  match fraction, exponent with
  | none, none =>
    let i : Int := if negative then -(read : Int) else read
    if dropped = 0 && !(negative && (read = 0 || Nat.pow 2 63 < read)) then some (integer i)
    else (Double.scaled? negative read dropped).map real
  | fraction, exponent =>
    let (read, used, _) := wordDigits read (fraction.getD [])
    (Double.scaled? negative read (exponent.getD 0 + dropped - used)).map real

/-- A number, after its sign. -/
def numberTail? (negative : Bool) (cs : List Char) : Option (Json × List Char) := do
  let (whole, rest) ← wholePart? cs
  let (fraction, rest) ← fraction? rest
  let (exponent, rest) ← exponentPart? rest
  let n ← number? negative whole fraction exponent
  some (n, rest)

/-- The items of an array after one of them. The first argument bounds the number of items. -/
def itemsTail (item : TextReader Json) : Nat → TextReader (List Json)
  | 0, _ => none
  | n + 1, cs =>
    match skipSpace cs with
    | ']' :: rest => some ([], rest)
    | ',' :: rest => do
      let (v, rest) ← item rest
      let (vs, rest) ← itemsTail item n rest
      some (v :: vs, rest)
    | _ => none

/-- A field: a quoted key, a colon, a value. -/
def field (value : TextReader Json) : TextReader (String × Json) := fun cs =>
  match skipSpace cs with
  | '"' :: rest => do
    let (key, rest) ← string? rest
    match skipSpace rest with
    | ':' :: rest =>
      let (v, rest) ← value rest
      some ((key, v), rest)
    | _ => none
  | _ => none

/-- The fields of an object after one of them. The first argument bounds the number of fields. -/
def fieldsTail (value : TextReader Json) : Nat → TextReader (List (String × Json))
  | 0, _ => none
  | n + 1, cs =>
    match skipSpace cs with
    | '\x7d' :: rest => some ([], rest)
    | ',' :: rest => do
      let (f, rest) ← field value rest
      let (fs, rest) ← fieldsTail value n rest
      some (f :: fs, rest)
    | _ => none

/-- The items of an array, after its opening bracket. -/
def items (item : TextReader Json) : TextReader (List Json) := fun cs =>
  match skipSpace cs with
  | ']' :: rest => some ([], rest)
  | cs => do
    let (v, rest) ← item cs
    let (vs, rest) ← itemsTail item (cs.length + 1) rest
    some (v :: vs, rest)

/-- The fields of an object, after its opening brace. -/
def fields (value : TextReader Json) : TextReader (List (String × Json)) := fun cs =>
  match skipSpace cs with
  | '\x7d' :: rest => some ([], rest)
  | cs => do
    let (f, rest) ← field value cs
    let (fs, rest) ← fieldsTail value (cs.length + 1) rest
    some (f :: fs, rest)

/-- A value that may contain the given number of levels of arrays and objects. -/
def value : Nat → TextReader Json
  | levels, cs =>
    match skipSpace cs with
    | 'n' :: rest => (word? ['u', 'l', 'l'] rest).map (null, ·)
    | 't' :: rest => (word? ['r', 'u', 'e'] rest).map (bool true, ·)
    | 'f' :: rest => (word? ['a', 'l', 's', 'e'] rest).map (bool false, ·)
    | '"' :: rest => (string? rest).map fun (s, rest) => (string s, rest)
    | '-' :: rest => numberTail? true rest
    | '[' :: rest =>
      match levels with
      | 0 => none
      | inner + 1 => (items (value inner) rest).map fun (vs, rest) => (array vs, rest)
    | '\x7b' :: rest =>
      match levels with
      | 0 => none
      | inner + 1 =>
        (fields (value inner) rest).map fun (fs, rest) => (object (collect fs), rest)
    | cs => numberTail? false cs

/-- The greatest number of levels of arrays and objects. -/
def maxLevels : Nat := 127

/-- The value that a text spells as a whole. -/
def ofText? (s : String) : Option Json :=
  match value maxLevels s.toList with
  | some (v, rest) => if (skipSpace rest).isEmpty then some v else none
  | none => none

end EntityQuery.Json
