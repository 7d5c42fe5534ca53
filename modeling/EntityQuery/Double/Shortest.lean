import EntityQuery.Double

/-!
# Shortest decimals of doubles

Among the decimals that read back as a given double, the shortest ones have the fewest digits, and
of those the nearest one is taken. Both texts of a double are spellings of these digits: the
positional one, which never uses an exponent, and the exchange one, which does beyond sixteen
places before the point and five after it.
-/

namespace EntityQuery.Double

/-- A positive decimal `0.d₁d₂… · 10 ^ point`, given by its digits. -/
structure Decimal where
  digits : List Char
  point : Int
  deriving DecidableEq, Repr

/-- The number of decimal digits of a natural number. -/
def digitCount (n : Nat) : Nat := (Nat.toDigits 10 n).length

/-- The exponent `k` with `10 ^ (k - 1) ≤ numerator / denominator < 10 ^ k`. -/
def decimalExponent (numerator denominator : Nat) : Int :=
  if denominator ≤ numerator then digitCount (numerator / denominator)
  else
    let t := digitCount (denominator / numerator)
    if denominator = numerator * Nat.pow 10 (t - 1) then 2 - (t : Int) else 1 - (t : Int)

/-- The natural number nearest to the quotient on the grid of the given size, among those of the
two neighbours that read back as the double. -/
def readingBack? (d : Double) (numerator denominator : Nat) (grid : Int) : Option Nat :=
  let (n, e) : Nat × Nat :=
    if 0 ≤ grid then (numerator, denominator * Nat.pow 10 grid.toNat)
    else (numerator * Nat.pow 10 (-grid).toNat, denominator)
  let below := n / e
  let readsBack (c : Nat) : Bool := ofDecimal false c grid == d
  let nearest := if 2 * (n % e) ≤ e then [below, below + 1] else [below + 1, below]
  nearest.find? readsBack

/-- The shortest digits for the positive double of the given value, tried from `count` digits on;
seventeen digits always suffice. -/
def shortestFrom (d : Double) (numerator denominator : Nat) (exponent : Int) :
    Nat → Nat → Decimal
  | _, 0 => ⟨[], 0⟩
  | count, more + 1 =>
    match readingBack? d numerator denominator (exponent - count) with
    | some c =>
      let digits := Nat.toDigits 10 c
      ⟨digits, digits.length + (exponent - count)⟩
    | none => shortestFrom d numerator denominator exponent (count + 1) more

/-- The digits without zeros at the end. -/
def dropZeros (digits : List Char) : List Char :=
  (digits.reverse.dropWhile (· == '0')).reverse

/-- The shortest decimal of a finite positive number `mantissa · 2 ^ scale`. -/
def shortest (mantissa : Nat) (scale : Int) : Decimal :=
  let (numerator, denominator) := quotient mantissa scale
  let d := ofQuotient false numerator denominator
  let decimal := shortestFrom d numerator denominator (decimalExponent numerator denominator) 1 17
  { decimal with digits := dropZeros decimal.digits }

/-- The decimal written with a point and no exponent. -/
def Decimal.positional (d : Decimal) : List Char :=
  let count := d.digits.length
  if d.point ≤ 0 then '0' :: '.' :: (List.replicate (-d.point).toNat '0' ++ d.digits)
  else if count ≤ d.point.toNat then d.digits ++ List.replicate (d.point.toNat - count) '0'
  else d.digits.take d.point.toNat ++ '.' :: d.digits.drop d.point.toNat

/-- The decimal written as `d.ddd` with an exponent. -/
def Decimal.scientific (d : Decimal) : List Char :=
  let exponent := d.point - 1
  let sign := if exponent < 0 then '-' else '+'
  let tail := 'e' :: sign :: Nat.toDigits 10 exponent.natAbs
  match d.digits with
  | [] => tail
  | [c] => c :: tail
  | c :: cs => c :: '.' :: (cs ++ tail)

/-- A double in positional notation, whole numbers without a point. -/
def text (d : Double) : String :=
  match d.form with
  | .nan => "NaN"
  | .infinite negative => if negative then "-inf" else "inf"
  | .finite negative mantissa scale =>
    let digits := if mantissa = 0 then ['0'] else (shortest mantissa scale).positional
    String.ofList (if negative then '-' :: digits else digits)

/-- A finite double as a number of an exchange format: a point is always followed by a digit, and
very large and very small numbers have an exponent. Other doubles have no such text. -/
def exchangeText? (d : Double) : Option String :=
  match d.form with
  | .finite negative mantissa scale =>
    let digits :=
      if mantissa = 0 then ['0', '.', '0']
      else
        let decimal := shortest mantissa scale
        if -5 < decimal.point ∧ decimal.point ≤ 16 then
          let plain := decimal.positional
          if plain.contains '.' then plain else plain ++ ['.', '0']
        else decimal.scientific
    some (String.ofList (if negative then '-' :: digits else digits))
  | _ => none

end EntityQuery.Double
