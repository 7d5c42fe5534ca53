import EntityQuery.Double
import EntityQuery.Numeral

/-!
# Reading doubles

A text is split into its sign, digits and exponent, and the number they spell is rounded once. The
scaled reading rounds twice, first the digits and then their product with a power of ten, which is
how numbers of exchange texts are read.
-/

namespace EntityQuery.Double

/-- The exponent of a decimal text, with nothing after it. -/
def exponent? : List Char → Option Int
  | [] => some 0
  | c :: cs => if c == 'e' || c == 'E' then Numeral.int? cs else none

/-- The unsigned decimal that a text spells, as digits and a decimal exponent. -/
def decimal? (cs : List Char) : Option (Nat × Int) :=
  let whole := cs.takeWhile Char.isDigit
  let rest := cs.dropWhile Char.isDigit
  let (fraction, rest) := match rest with
    | '.' :: more => (more.takeWhile Char.isDigit, more.dropWhile Char.isDigit)
    | _ => ([], rest)
  if whole.isEmpty && fraction.isEmpty then none
  else
    (exponent? rest).map fun e => (Numeral.extend 0 (whole ++ fraction), e - fraction.length)

/-- The double that an unsigned text spells: a decimal, an infinity, or no number. -/
def unsigned? (negative : Bool) (cs : List Char) : Option Double :=
  match String.ofList (cs.map Char.toLower) with
  | "inf" | "infinity" => some (infinity negative)
  | "nan" => some nan
  | _ => (decimal? cs).map fun (digits, e) => ofDecimal negative digits e

/-- The double that a text spells after an optional sign. -/
def ofText? : List Char → Option Double
  | '-' :: cs => unsigned? true cs
  | '+' :: cs => unsigned? false cs
  | cs => unsigned? false cs

/-- The double nearest to a power of ten. -/
def tenPow (n : Nat) : Double := ofDecimal false 1 n

/-- Divides by powers of ten of the greatest exponent until the exponent is in reach, then by the
last one; `none` when a division can be avoided because the number is zero already. -/
def scaleDown : Nat → Double → Nat → Double
  | 0, d, _ => d
  | rounds + 1, d, n =>
    if n ≤ 308 then div d (tenPow n)
    else if d.magnitudeBits = 0 then d
    else scaleDown rounds (div d (tenPow 308)) (n - 308)

/-- The digits rounded to a double and scaled by a power of ten, with a second rounding; `none`
where the number is too large for a double. -/
def scaled? (negative : Bool) (digits : Nat) (exponent : Int) : Option Double :=
  let d := ofQuotient false digits 1
  let magnitude :=
    if exponent < 0 then some (scaleDown 4 d (-exponent).toNat)
    else if 308 < exponent then (if d.magnitudeBits = 0 then some d else none)
    else some (mul d (tenPow exponent.toNat)) |>.filter isFinite
  magnitude.map fun d => ofMagnitude negative d.magnitudeBits

end EntityQuery.Double
