import EntityQuery.Double
import EntityQuery.Json
import EntityQuery.Numeral
import EntityQuery.TextReader

/-!
# Numbers of settings files

Digits may be grouped by single underscores. An integer is decimal, or hexadecimal, octal or binary
after its mark, and fits sixty-four bits; any other number is rounded to a double and must not be
too large for one.
-/

namespace EntityQuery.Toml

open TextReader

/-- The value of a digit below a base. -/
def digitBelow? (base : Nat) (c : Char) : Option Nat := (hexValue? c).filter (· < base)

/-- The digits that follow a digit, with an underscore at most between two of them, and the rest. -/
def moreDigits (base : Nat) : List Char → List Nat × List Char
  | [] => ([], [])
  | '_' :: c :: cs =>
    match digitBelow? base c with
    | some d => let (ds, rest) := moreDigits base cs; (d :: ds, rest)
    | none => ([], '_' :: c :: cs)
  | c :: cs =>
    match digitBelow? base c with
    | some d => let (ds, rest) := moreDigits base cs; (d :: ds, rest)
    | none => ([], c :: cs)

/-- One digit or more. -/
def digits? (base : Nat) : TextReader (List Nat)
  | [] => none
  | c :: cs => (digitBelow? base c).map fun d =>
    let (ds, rest) := moreDigits base cs
    (d :: ds, rest)

/-- The number that digits spell. -/
def ofDigits (base : Nat) (digits : List Nat) : Nat := digits.foldl (fun n d => base * n + d) 0

/-- A sign: whether it is a minus. Without one the number is positive. -/
def sign : List Char → Bool × List Char
  | '-' :: rest => (true, rest)
  | '+' :: rest => (false, rest)
  | cs => (false, cs)

/-- An integer, if it fits sixty-four bits. -/
def integer? (i : Int) : Option Json := (Numeral.fit? i).map fun _ => .integer i

/-- The digits after a decimal point, if one is next. -/
def fraction? : TextReader (Option (List Nat))
  | '.' :: cs => (digits? 10 cs).map fun (ds, rest) => (some ds, rest)
  | cs => some (none, cs)

/-- The exponent after its mark, if one is next. -/
def exponent? : TextReader (Option Int)
  | c :: cs =>
    if c == 'e' || c == 'E' then
      let (negative, cs) := sign cs
      (digits? 10 cs).map fun (ds, rest) =>
        let n : Int := ofDigits 10 ds
        (some (if negative then -n else n), rest)
    else some (none, c :: cs)
  | [] => some (none, [])

/-- The number of decimal parts: an integer if it is whole. A number past the largest double is
refused, unless it is negative. -/
def decimalValue? (negative : Bool) (whole : List Nat) (fraction : Option (List Nat))
    (exponent : Option Int) : Option Json :=
  match fraction, exponent with
  | none, none =>
    let n : Int := ofDigits 10 whole
    integer? (if negative then -n else n)
  | fraction, exponent =>
    let places := fraction.getD []
    let d := Double.ofDecimal negative (ofDigits 10 (whole ++ places))
      (exponent.getD 0 - places.length)
    if d = Double.infinity false then none else some (.real d)

/-- A decimal number after its sign: a leading zero stands alone. -/
def decimal? (negative : Bool) : TextReader Json := fun cs => do
  let (whole, rest) ← digits? 10 cs
  if whole.head? = some 0 && 1 < whole.length then none
  else
    let (fraction, rest) ← fraction? rest
    let (exponent, rest) ← exponent? rest
    let n ← decimalValue? negative whole fraction exponent
    some (n, rest)

/-- An integer in a base other than ten. -/
def inBase? (base : Nat) : TextReader Json := fun cs => do
  let (ds, rest) ← digits? base cs
  let n ← integer? (ofDigits base ds)
  some (n, rest)

/-- A number after its sign. -/
def unsigned? (negative : Bool) : TextReader Json
  | 'i' :: rest => (word? ['n', 'f'] rest).map (.real (Double.infinity negative), ·)
  | 'n' :: rest => (word? ['a', 'n'] rest).map (.real Double.nan, ·)
  | cs => decimal? negative cs

/-- A number. -/
def number? : TextReader Json
  | '0' :: 'x' :: rest => inBase? 16 rest
  | '0' :: 'o' :: rest => inBase? 8 rest
  | '0' :: 'b' :: rest => inBase? 2 rest
  | cs => unsigned? (sign cs).1 (sign cs).2

@[simp] theorem ofDigits_nil (base : Nat) : ofDigits base [] = 0 := rfl

end EntityQuery.Toml
