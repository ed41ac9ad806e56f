/-!
# Text — hexadecimal digits

Writing and reading numbers in base sixteen.
-/

namespace StorySuite.Text

/-- The digit of `n % 16`, in lower case. -/
def hexDigit (n : Nat) : Char :=
  let d := n % 16
  if d < 10 then Char.ofNat (48 + d) else Char.ofNat (87 + d)

/-- The digits of `n`, without leading zeros. -/
def hexDigits (n : Nat) : List Char :=
  Nat.toDigits 16 n

/-- The last four hexadecimal digits of `n`. -/
def hex4 (n : Nat) : List Char :=
  [hexDigit (n / 4096), hexDigit (n / 256), hexDigit (n / 16), hexDigit n]

/-- The last two hexadecimal digits of `n`. -/
def hex2 (n : Nat) : List Char :=
  [hexDigit (n / 16), hexDigit n]

/-- The value of a hexadecimal digit of either case. -/
def hexValue? (c : Char) : Option Nat :=
  if '0' ≤ c && c ≤ '9' then some (c.toNat - 48)
  else if 'a' ≤ c && c ≤ 'f' then some (c.toNat - 87)
  else if 'A' ≤ c && c ≤ 'F' then some (c.toNat - 55)
  else none

/-- The value of a digit below `base`, where letters of either case follow the digits. -/
def digitValue? (base : Nat) (c : Char) : Option Nat :=
  (hexValue? c).filter (· < base)

/-- The number that `ds` write in base `base`; none where one of them is no digit of it or there is
none. -/
def ofDigits? (base : Nat) (ds : List Char) : Option Nat :=
  if ds.isEmpty then none
  else ds.foldl (fun acc c => do pure ((← acc) * base + (← digitValue? base c))) (some 0)

end StorySuite.Text
