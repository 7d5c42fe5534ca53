/-!
# Decimal numerals

Reading integers from decimal digits. A text is a numeral only as a whole: an optional sign where
one is allowed, then at least one ASCII digit and nothing else. The bounded readings refuse a
number that does not fit the width they are named for.
-/

namespace EntityQuery.Numeral

/-- The number that decimal digits spell after what has been read already. -/
def extend (read : Nat) : List Char → Nat
  | [] => read
  | c :: cs => extend (10 * read + (c.toNat - '0'.toNat)) cs

/-- The natural number spelled by one or more digits. -/
def nat? (cs : List Char) : Option Nat :=
  if cs.isEmpty || !cs.all Char.isDigit then none else some (extend 0 cs)

/-- The integer spelled by digits after an optional sign. -/
def int? : List Char → Option Int
  | '-' :: cs => (nat? cs).map fun n => -(n : Int)
  | '+' :: cs => (nat? cs).map Int.ofNat
  | cs => (nat? cs).map Int.ofNat

/-- The natural number spelled by digits after an optional plus sign, if it is below the bound. -/
def natBelow? (bound : Nat) (cs : List Char) : Option Nat :=
  let digits := match cs with
    | '+' :: rest => rest
    | _ => cs
  (nat? digits).filter (· < bound)

/-- The bound of the numbers that fit sixty-four bits. -/
def wordBound : Nat := Nat.pow 2 64

/-- The integer as a signed sixty-four-bit number, if it fits. -/
def fit? (i : Int) : Option Int64 :=
  if Int64.minValue.toInt ≤ i ∧ i ≤ Int64.maxValue.toInt then some (.ofInt i) else none

/-- The signed sixty-four-bit number that a text spells. -/
def int64? (cs : List Char) : Option Int64 := (int? cs).bind fit?

/-- The digits of a signed sixty-four-bit number. -/
def ofInt64 (i : Int64) : String := toString i.toInt

@[simp] theorem nat?_nil : nat? [] = none := rfl

end EntityQuery.Numeral
