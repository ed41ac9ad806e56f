import StorySuite.Text.Ranges

/-!
# Text — blanks

The characters with the Unicode property `White_Space`, and texts without the blanks at their ends.
-/

namespace StorySuite.Text

/-- The characters with `White_Space`, as closed ranges. -/
def blankRanges : List (Nat × Nat) := [
  (0x9, 0xd), (0x20, 0x20), (0x85, 0x85), (0xa0, 0xa0), (0x1680, 0x1680), (0x2000, 0x200a),
  (0x2028, 0x2029), (0x202f, 0x202f), (0x205f, 0x205f), (0x3000, 0x3000)]

/-- `c` has `White_Space`. -/
def isBlank (c : Char) : Bool :=
  inRanges blankRanges c.toNat

/-- `cs` without the blanks at its ends. -/
def trimChars (cs : List Char) : List Char :=
  ((cs.dropWhile isBlank).reverse.dropWhile isBlank).reverse

/-- `s` without the blanks at its ends. -/
def trim (s : String) : String :=
  String.ofList (trimChars s.toList)

/-- The ASCII capitals of `s` in lower case, all else as it is. -/
def lowerAscii (s : String) : String :=
  s.map Char.toLower

end StorySuite.Text
