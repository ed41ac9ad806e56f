import StorySuite.Decimal.Binary64

/-!
# Decimal — shortest digits

The fewest decimal digits that read back as a given number, of those the nearest to it, and the ways
to write them out.
-/

namespace StorySuite.Decimal

/-- Decimal digits with a power of ten: `digits * 10 ^ exponent`. -/
structure Digits where
  digits : Nat
  exponent : Int
  deriving DecidableEq, Repr

namespace Binary64

/-- The decimal exponent of the leading digit of `num / den`. -/
def leadingExponent (num den : Nat) : Int :=
  if den ≤ num then (decimalLength (num / den) : Int) - 1 else -(decimalLength (den / num) : Int)

/-- Three bounds in a common unit, which is the fraction `unitNum / unitDen`: the numbers from `low`
to `high` are read as `value`, the ends themselves exactly when `closed`. -/
structure Interval where
  low : Nat
  value : Nat
  high : Nat
  unitNum : Nat
  unitDen : Nat
  closed : Bool

/-- The numbers that are read as `x`. -/
def interval (x : Binary64) : Interval :=
  let m := x.significand
  let e := x.exponent - 2
  { low := if m = Nat.pow 2 52 ∧ minExponent < x.exponent then 4 * m - 1 else 4 * m - 2
    value := 4 * m
    high := 4 * m + 2
    unitNum := if 0 ≤ e then Nat.pow 2 e.toNat else 1
    unitDen := if 0 ≤ e then 1 else Nat.pow 2 (-e).toNat
    closed := m % 2 = 0 }

/-- The whole multiple of `10 ^ p` that is read as the value of `i` and nearest to it, if one of the
two beside the value is. -/
def Interval.onGrid? (i : Interval) (p : Int) : Option Nat :=
  let scale := if 0 ≤ p then i.unitDen * Nat.pow 10 p.toNat else i.unitDen
  let unit := if 0 ≤ p then i.unitNum else i.unitNum * Nat.pow 10 (-p).toNat
  let v := i.value * unit
  let holds (c : Nat) : Bool :=
    if i.closed then i.low * unit ≤ c * scale && c * scale ≤ i.high * unit
    else i.low * unit < c * scale && c * scale < i.high * unit
  let below := v / scale
  let above := below + 1
  if holds below then
    if holds above then
      let down := v - below * scale
      let up := above * scale - v
      if down < up then some below
      else if up < down then some above
      else if below % 2 = 0 then some below else some above
    else some below
  else if holds above then some above
  else none

/-- The first hit among grids of `n`, `n + 1`, … digits, at most `fuel` of them. -/
def Interval.search (i : Interval) (leading : Int) : Nat → Nat → Digits
  | 0, _ => ⟨0, 0⟩
  | fuel + 1, n =>
    let p := leading - n + 1
    match i.onGrid? p with
    | some c => ⟨c, p⟩
    | none => i.search leading fuel (n + 1)

/-- The shortest digits that read back as the absolute value of `x`. -/
def shortest (x : Binary64) : Digits :=
  let (n, d) := x.ratio
  x.interval.search (leadingExponent n d) 18 1

end Binary64

/-- How digits are laid out. -/
structure Layout where
  /-- The least decimal exponent that is written with leading zeros. -/
  plainFrom : Int
  /-- The least decimal exponent that is written with a power of ten. -/
  plainBelow : Int
  /-- A whole number ends in `.0`. -/
  pointZero : Bool
  /-- A power of ten that is not negative has a plus sign. -/
  plusSign : Bool

namespace Layout

/-- The layout of data: a number that is not whole by type shows a point or a power of ten. -/
def data : Layout := ⟨-5, 16, true, true⟩

/-- The layout of numbers in script text. -/
def script : Layout := ⟨-6, 21, false, true⟩

/-- The digits `ds`, of which the first has the decimal exponent `e`, laid out. -/
def place (f : Layout) (ds : List Char) (e : Int) : List Char :=
  if f.plainFrom ≤ e && e < f.plainBelow then
    if e < 0 then '0' :: '.' :: (List.replicate (-e - 1).toNat '0' ++ ds)
    else
      let whole := e.toNat + 1
      if ds.length ≤ whole then
        ds ++ List.replicate (whole - ds.length) '0' ++ (if f.pointZero then ['.', '0'] else [])
      else ds.take whole ++ '.' :: ds.drop whole
  else
    let tail := match ds with
      | d :: more@(_ :: _) => d :: '.' :: more
      | _ => ds
    let sign := if e < 0 then ['-'] else if f.plusSign then ['+'] else []
    tail ++ 'e' :: (sign ++ Nat.toDigits 10 e.natAbs)

/-- `x` written out. -/
def write (f : Layout) (x : Binary64) : String :=
  let sign := if x.negative then ['-'] else []
  if x.isZero then String.ofList (sign ++ f.place ['0'] 0)
  else
    let d := x.shortest
    let all := Nat.toDigits 10 d.digits
    let ds := (all.reverse.dropWhile (· == '0')).reverse
    String.ofList (sign ++ f.place ds (d.exponent + (all.length - 1 : Nat)))

end Layout

end StorySuite.Decimal
