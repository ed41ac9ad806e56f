/-!
# Decimal — binary floating-point numbers

A number with a 53-bit significand, as a sign, a significand and a power of two.  `ofRatio?` is the
nearest such number to a fraction, of two equally near ones the one with an even significand, and
`ofDecimal?` reads decimal digits with a power of ten.  All arithmetic is exact arithmetic on
natural numbers.
-/

namespace StorySuite.Decimal

/-- The number `± significand * 2 ^ exponent`.  `significand < 2 ^ 53`, and it is at least `2 ^ 52`
unless `exponent` is the least one. -/
structure Binary64 where
  negative : Bool
  significand : Nat
  exponent : Int
  deriving DecidableEq, Repr, Inhabited

namespace Binary64

/-- The least exponent. -/
def minExponent : Int := -1074

/-- The greatest exponent. -/
def maxExponent : Int := 971

/-- Zero, of either sign. -/
def zero (negative : Bool) : Binary64 :=
  ⟨negative, 0, minExponent⟩

/-- `x` is a zero. -/
def isZero (x : Binary64) : Bool :=
  x.significand == 0

/-- `num / den` to the nearest whole number, a half to the even one. -/
def roundQuotient (num den : Nat) : Nat :=
  let q := num / den
  let r := num % den
  if 2 * r < den then q
  else if den < 2 * r then q + 1
  else if q % 2 = 0 then q else q + 1

/-- The numerator and denominator of `num / den / 2 ^ e`. -/
def scaled (num den : Nat) (e : Int) : Nat × Nat :=
  if 0 ≤ e then (num, den * Nat.pow 2 e.toNat) else (num * Nat.pow 2 (-e).toNat, den)

/-- The exponent under which `num / den` has a 53-bit whole part, or the least one. -/
def exponentFor (num den : Nat) : Int :=
  let k : Int := (Nat.log2 num : Int) - Nat.log2 den
  let (n, d) := scaled num den k
  max (if n < d then k - 53 else k - 52) minExponent

/-- The number nearest to `± num / den`; none where that is beyond the greatest number. -/
def ofRatio? (negative : Bool) (num den : Nat) : Option Binary64 :=
  if num = 0 then some (zero negative)
  else
    let e := exponentFor num den
    let (n, d) := scaled num den e
    let q := roundQuotient n d
    let (q, e) := if q = Nat.pow 2 53 then (Nat.pow 2 52, e + 1) else (q, e)
    if maxExponent < e then none
    else if q = 0 then some (zero negative)
    else some ⟨negative, q, e⟩

/-- How many decimal digits `n` has. -/
def decimalLength (n : Nat) : Nat :=
  (Nat.toDigits 10 n).length

/-- The number nearest to `± digits * 10 ^ exponent`; none where that is beyond the greatest number.
-/
def ofDecimal? (negative : Bool) (digits : Nat) (exponent : Int) : Option Binary64 :=
  if digits = 0 then some (zero negative)
  else
    let magnitude := (decimalLength digits : Int) + exponent
    if 310 < magnitude then none
    else if magnitude < -330 then some (zero negative)
    else if 0 ≤ exponent then ofRatio? negative (digits * Nat.pow 10 exponent.toNat) 1
    else ofRatio? negative digits (Nat.pow 10 (-exponent).toNat)

/-- The whole number `n`, rounded. -/
def ofInt? (n : Int) : Option Binary64 :=
  ofRatio? (n < 0) n.natAbs 1

/-- The numerator and denominator of the absolute value of `x`. -/
def ratio (x : Binary64) : Nat × Nat :=
  if 0 ≤ x.exponent then (x.significand * Nat.pow 2 x.exponent.toNat, 1)
  else (x.significand, Nat.pow 2 (-x.exponent).toNat)

/-- The whole number that `x` is, if it is one. -/
def toInt? (x : Binary64) : Option Int :=
  let (n, d) := x.ratio
  if n % d = 0 then some (if x.negative then -(n / d : Nat) else (n / d : Nat)) else none

/-- `x` with the opposite sign. -/
def neg (x : Binary64) : Binary64 :=
  { x with negative := !x.negative }

end Binary64

end StorySuite.Decimal
