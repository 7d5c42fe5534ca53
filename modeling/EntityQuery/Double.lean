/-!
# Double-precision numbers

A double is its sixty-four bits. A finite one stands for `± m · 2 ^ q` with natural `m` below
`2 ^ 53`, so every operation here is arithmetic on natural numbers: reading a quotient rounds it to
the nearest double, with a tie going to the even neighbour, and nothing rests on machine floats.
-/

namespace EntityQuery

/-- A double-precision number, given by its bits. -/
structure Double where
  bits : UInt64
  deriving DecidableEq, Repr, Inhabited

namespace Double

/-- What a double stands for. -/
inductive Form where
  | nan
  | infinite (negative : Bool)
  /-- The number `± mantissa · 2 ^ scale`. -/
  | finite (negative : Bool) (mantissa : Nat) (scale : Int)
  deriving DecidableEq, Repr

/-- The least scale, that of the subnormal numbers. -/
def leastScale : Int := -1074

/-- The bits, below the sign, of the infinities. -/
def infiniteBits : Nat := 0x7FF * Nat.pow 2 52

/-- The sign bit. -/
def isNegative (d : Double) : Bool := Nat.pow 2 63 ≤ d.bits.toNat

/-- The bits below the sign. -/
def magnitudeBits (d : Double) : Nat := d.bits.toNat % Nat.pow 2 63

/-- What the bits of a double stand for. -/
def form (d : Double) : Form :=
  let field := d.magnitudeBits / Nat.pow 2 52
  let fraction := d.magnitudeBits % Nat.pow 2 52
  if field = 0x7FF then
    if fraction = 0 then .infinite d.isNegative else .nan
  else if field = 0 then .finite d.isNegative fraction leastScale
  else .finite d.isNegative (Nat.pow 2 52 + fraction) (leastScale + (field - 1 : Nat))

/-- The double with a sign and the bits below it. -/
def ofMagnitude (negative : Bool) (magnitude : Nat) : Double :=
  ⟨.ofNat (magnitude + if negative then Nat.pow 2 63 else 0)⟩

/-- Zero, of either sign. -/
def zero (negative : Bool) : Double := ofMagnitude negative 0

/-- Infinity, of either sign. -/
def infinity (negative : Bool) : Double := ofMagnitude negative infiniteBits

/-- The number that stands for no number. -/
def nan : Double := ofMagnitude false (infiniteBits + Nat.pow 2 51)

/-- Whether a double stands for a number, neither an infinity nor no number. -/
def isFinite (d : Double) : Bool := d.magnitudeBits < infiniteBits

/-- Equality of numbers: a NaN equals nothing, and the two zeros are equal. -/
def numericEq (a b : Double) : Bool :=
  match a.form, b.form with
  | .nan, _ | _, .nan => false
  | _, _ => a == b || (a.magnitudeBits == 0 && b.magnitudeBits == 0)

/-- The quotient rounded to the nearest natural number, a tie going to the even one. -/
def roundQuotient (numerator denominator : Nat) : Nat :=
  let quotient := numerator / denominator
  let twice := 2 * (numerator % denominator)
  if twice < denominator then quotient
  else if denominator < twice then quotient + 1
  else quotient + quotient % 2

/-- `n · 2 ^ e` as a quotient of natural numbers, over the given denominator. -/
def timesTwoPow (numerator denominator : Nat) (exponent : Int) : Nat × Nat :=
  if 0 ≤ exponent then (numerator * Nat.pow 2 exponent.toNat, denominator)
  else (numerator, denominator * Nat.pow 2 (-exponent).toNat)

/-- The exponent `e` with `2 ^ e ≤ numerator / denominator < 2 ^ (e + 1)`. -/
def binaryExponent (numerator denominator : Nat) : Int :=
  let guess : Int := (numerator.log2 : Int) - denominator.log2
  let (n, d) := timesTwoPow numerator denominator (-guess)
  if d ≤ n then guess else guess - 1

/-- The double nearest to a quotient; past the largest double it is infinite. -/
def ofQuotient (negative : Bool) (numerator denominator : Nat) : Double :=
  if numerator = 0 then zero negative
  else
    let scale := max (binaryExponent numerator denominator - 52) leastScale
    let (n, d) := timesTwoPow numerator denominator (-scale)
    let magnitude := (scale - leastScale).toNat * Nat.pow 2 52 + roundQuotient n d
    ofMagnitude negative (min magnitude infiniteBits)

/-- The double nearest to `± digits · 10 ^ exponent`. Exponents that leave the range of doubles
are decided by the number of digits, so that no huge power is computed. -/
def ofDecimal (negative : Bool) (digits : Nat) (exponent : Int) : Double :=
  let length : Int := (Nat.toDigits 10 digits).length
  if digits = 0 || length + exponent < -323 then zero negative
  else if 309 < length + exponent then infinity negative
  else if 0 ≤ exponent then ofQuotient negative (digits * Nat.pow 10 exponent.toNat) 1
  else ofQuotient negative digits (Nat.pow 10 (-exponent).toNat)

/-- The double nearest to an integer. -/
def ofInt (i : Int) : Double := ofQuotient (i < 0) i.natAbs 1

/-- The absolute value of a finite double as a quotient. -/
def quotient (mantissa : Nat) (scale : Int) : Nat × Nat := timesTwoPow mantissa 1 scale

/-- The rounded product of two doubles, where both are finite. -/
def mul (a b : Double) : Double :=
  match a.form, b.form with
  | .finite s m q, .finite t n r =>
    let (numerator, denominator) := quotient (m * n) (q + r)
    ofQuotient (s != t) numerator denominator
  | _, _ => nan

/-- The rounded quotient of two finite doubles, the second one not zero. -/
def div (a b : Double) : Double :=
  match a.form, b.form with
  | .finite s m q, .finite t n r =>
    let (numerator, denominator) := timesTwoPow m n (q - r)
    ofQuotient (s != t) numerator denominator
  | _, _ => nan

/-- The double of the same value as a single-precision number given by its bits. -/
def ofSingleBits (bits : UInt32) : Double :=
  let n := bits.toNat
  let negative : Bool := Nat.pow 2 31 ≤ n
  let field : Nat := n % Nat.pow 2 31 / Nat.pow 2 23
  let fraction : Nat := n % Nat.pow 2 23
  if field = 0xFF then (if fraction = 0 then infinity negative else nan)
  else
    let (mantissa, scale) : Nat × Int :=
      if field = 0 then (fraction, -149) else (Nat.pow 2 23 + fraction, (field : Int) - 150)
    let (numerator, denominator) := quotient mantissa scale
    ofQuotient negative numerator denominator

@[simp] theorem numericEq_nan_left (d : Double) : numericEq nan d = false := rfl

end Double

end EntityQuery
