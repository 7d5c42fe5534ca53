import EntityQuery.ConditionText.Token
import EntityQuery.TextReader

/-!
# Quoted texts with escapes

The contents of quoted texts up to the closing quote. In plain texts only the quote itself is
special: written twice, it stands for itself. The other kinds know escapes with a backslash, each in
its own way. Every function takes the characters after the opening quote and returns the contents
together with the number of characters that were used, the closing quote included.
-/

namespace EntityQuery.ConditionText

/-- The contents of a plain text, where a quote is written twice. -/
def plainContents (quote : Char) : List Char → Option (List Char × Nat)
  | [] => none
  | [c] => if c = quote then some ([], 1) else none
  | c :: d :: rest =>
    if c = quote then
      if d = quote then (plainContents quote rest).map fun (s, n) => (quote :: s, n + 2)
      else some ([], 1)
    else (plainContents quote (d :: rest)).map fun (s, n) => (c :: s, n + 1)

/-- The character of a backslash escape in a text of hexadecimal digits or of national characters.
-/
def controlEscape : Char → Char
  | '0' => '\x00'
  | 'a' => '\x07'
  | 'b' => '\x08'
  | 'f' => '\x0c'
  | 'n' => '\n'
  | 'r' => '\r'
  | 't' => '\t'
  | 'Z' => '\x1a'
  | c => c

/-- The contents of a text in which a backslash changes the next character. -/
def backslashContents (quote : Char) : List Char → Option (List Char × Nat)
  | [] => none
  | '\\' :: d :: rest =>
    (backslashContents quote rest).map fun (s, n) => (controlEscape d :: s, n + 2)
  | ['\\'] => none
  | [c] => if c = quote then some ([], 1) else none
  | c :: d :: rest =>
    if c = quote then
      if d = quote then (backslashContents quote rest).map fun (s, n) => (quote :: s, n + 2)
      else some ([], 1)
    else (backslashContents quote (d :: rest)).map fun (s, n) => (c :: s, n + 1)

/-- The number that digits of a base spell, with an optional plus sign. -/
def radixNumber? (base : Nat) (cs : List Char) : Option Nat :=
  let digits := match cs with
    | '+' :: rest => rest
    | _ => cs
  if digits.isEmpty then none
  else
    digits.foldl
      (fun n? c => n?.bind fun n =>
        (TextReader.hexValue? c).bind fun d => if d < base then some (n * base + d) else none)
      (some 0)

/-- The character of a code point, if there is one. -/
def codePointChar? (n : Nat) : Option Char :=
  if n.isValidChar then some (Char.ofNat n) else none

/-- The character of a byte: only ASCII is a character. -/
def byteChar? (n : Nat) : Option Char :=
  let b := n % 256
  if b < 128 then some (Char.ofNat b) else none

/-- At most `limit` leading characters of a kind. -/
def takeSome (kind : Char → Bool) : Nat → List Char → List Char
  | 0, _ => []
  | _ + 1, [] => []
  | limit + 1, c :: cs => if kind c then c :: takeSome kind limit cs else []

/-- Whether a character is an octal digit. -/
def isOctal (c : Char) : Bool := '0' ≤ c && c ≤ '7'

/-- Whether a character is a hexadecimal digit. -/
def isHex (c : Char) : Bool := (TextReader.hexValue? c).isSome

/-- The character that an escape stands for, given what follows the backslash, and the number of
characters that the escape has. -/
def escape? : List Char → Option (Char × Nat)
  | [] => none
  | 'b' :: _ => some ('\x08', 1)
  | 'f' :: _ => some ('\x0c', 1)
  | 'n' :: _ => some ('\n', 1)
  | 'r' :: _ => some ('\r', 1)
  | 't' :: _ => some ('\t', 1)
  | 'u' :: rest =>
    if rest.length < 4 then none
    else ((radixNumber? 16 (rest.take 4)).bind codePointChar?).map (·, 5)
  | 'U' :: rest =>
    if rest.length < 8 then none
    else ((radixNumber? 16 (rest.take 8)).bind codePointChar?).map (·, 9)
  | 'x' :: rest =>
    match takeSome isHex 2 rest with
    | [] => some ('x', 1)
    | digits => ((radixNumber? 16 digits).bind byteChar?).map (·, digits.length + 1)
  | c :: rest =>
    if isOctal c then
      let digits := c :: takeSome isOctal 2 rest
      ((radixNumber? 8 digits).bind byteChar?).map (·, digits.length)
    else some (c, 1)

/-- The contents of an escaped text. An escape never stands for the null character. The first
argument bounds the number of characters to come. -/
def escapedContents : Nat → List Char → Option (List Char × Nat)
  | 0, _ => none
  | _ + 1, [] => none
  | fuel + 1, '\'' :: '\'' :: rest =>
    (escapedContents fuel rest).map fun (s, n) => ('\'' :: s, n + 2)
  | _ + 1, '\'' :: _ => some ([], 1)
  | fuel + 1, '\\' :: rest =>
    match escape? rest with
    | some (c, used) =>
      if c = '\x00' then none
      else
        (escapedContents fuel (rest.drop used)).map fun (s, n) => (c :: s, n + used + 1)
    | none => none
  | fuel + 1, c :: rest => (escapedContents fuel rest).map fun (s, n) => (c :: s, n + 1)

/-- A fault inside a text of code points: what is wrong, after how many characters. -/
abbrev ContentFault : Type := String × Nat

/-- The character of `count` hexadecimal digits, which start after `used` characters. -/
def codePointDigits (count used : Nat) (cs : List Char) : Except ContentFault Char :=
  let digits := takeSome isHex count cs
  if digits.length = count then
    let n := (radixNumber? 16 digits).getD 0
    match codePointChar? n with
    | some c => .ok c
    | none =>
      .error ("Invalid unicode character: " ++ String.ofList (Nat.toDigits 16 n), used + count)
  else
    match cs.drop digits.length with
    | [] =>
      .error ("Unexpected EOF while parsing hex digit in escaped unicode string.",
        used + digits.length)
    | c :: _ =>
      .error ("Invalid hex digit in escaped unicode string: " ++ String.singleton c,
        used + digits.length + 1)

/-- The contents of a text of code points, of which `used` characters have been read. The first
argument bounds the number of characters to come. -/
def codePointContents : Nat → Nat → List Char → Except ContentFault (List Char × Nat)
  | 0, used, _ => .error ("Unterminated unicode encoded string literal", used)
  | _ + 1, used, [] => .error ("Unterminated unicode encoded string literal", used)
  | fuel + 1, used, '\'' :: '\'' :: rest => do
    let (s, n) ← codePointContents fuel (used + 2) rest
    .ok ('\'' :: s, n)
  | _ + 1, used, '\'' :: _ => .ok ([], used + 1)
  | fuel + 1, used, '\\' :: '\\' :: rest => do
    let (s, n) ← codePointContents fuel (used + 2) rest
    .ok ('\\' :: s, n)
  | fuel + 1, used, '\\' :: '+' :: rest => do
    let c ← codePointDigits 6 (used + 2) rest
    let (s, n) ← codePointContents fuel (used + 8) (rest.drop 6)
    .ok (c :: s, n)
  | fuel + 1, used, '\\' :: rest => do
    let c ← codePointDigits 4 (used + 1) rest
    let (s, n) ← codePointContents fuel (used + 5) (rest.drop 4)
    .ok (c :: s, n)
  | fuel + 1, used, c :: rest => do
    let (s, n) ← codePointContents fuel (used + 1) rest
    .ok (c :: s, n)

@[simp] theorem plainContents_nil (quote : Char) : plainContents quote [] = none := rfl

end EntityQuery.ConditionText
