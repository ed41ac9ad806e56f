/-!
# Text — UTF-8

Reading bytes as text.  `nextChar` reads one character off the front of a byte sequence or says how
many bytes form the longest beginning of a character that cannot be completed.  `decode?` refuses
any such beginning; `decodeLossy` puts U+FFFD in its place.
-/

namespace StorySuite.Text.Utf8

/-- What stands at the front of a non-empty byte sequence. -/
inductive Front where
  /-- A character and the bytes after it. -/
  | char (c : Char) (rest : List UInt8)
  /-- A broken beginning, and the bytes after it. -/
  | broken (rest : List UInt8)

/-- `b` may continue a character. -/
def isTail (b : UInt8) : Bool :=
  0x80 ≤ b && b ≤ 0xbf

/-- The low six bits of a continuation byte. -/
def tailBits (b : UInt8) : Nat :=
  b.toNat % 0x40

/-- The least and greatest byte that may follow the first byte `b` of a character of at least three
bytes. -/
def secondBounds (b : UInt8) : UInt8 × UInt8 :=
  if b == 0xe0 then (0xa0, 0xbf)
  else if b == 0xed then (0x80, 0x9f)
  else if b == 0xf0 then (0x90, 0xbf)
  else if b == 0xf4 then (0x80, 0x8f)
  else (0x80, 0xbf)

/-- The front of `b :: rest`. -/
def nextChar (b : UInt8) (rest : List UInt8) : Front :=
  let (low, high) := secondBounds b
  if b < 0x80 then .char (Char.ofNat b.toNat) rest
  else if 0xc2 ≤ b && b ≤ 0xdf then
    match rest with
    | b₁ :: rest₁ =>
      if isTail b₁ then .char (Char.ofNat ((b.toNat - 0xc0) * 0x40 + tailBits b₁)) rest₁
      else .broken rest
    | [] => .broken rest
  else if 0xe0 ≤ b && b ≤ 0xef then
    match rest with
    | b₁ :: rest₁ =>
      if low ≤ b₁ && b₁ ≤ high then
        match rest₁ with
        | b₂ :: rest₂ =>
          if isTail b₂ then
            .char (Char.ofNat ((b.toNat - 0xe0) * 0x1000 + tailBits b₁ * 0x40 + tailBits b₂)) rest₂
          else .broken rest₁
        | [] => .broken rest₁
      else .broken rest
    | [] => .broken rest
  else if 0xf0 ≤ b && b ≤ 0xf4 then
    match rest with
    | b₁ :: rest₁ =>
      if low ≤ b₁ && b₁ ≤ high then
        match rest₁ with
        | b₂ :: rest₂ =>
          if isTail b₂ then
            match rest₂ with
            | b₃ :: rest₃ =>
              if isTail b₃ then
                .char (Char.ofNat ((b.toNat - 0xf0) * 0x40000 + tailBits b₁ * 0x1000 +
                  tailBits b₂ * 0x40 + tailBits b₃)) rest₃
              else .broken rest₂
            | [] => .broken rest₂
          else .broken rest₁
        | [] => .broken rest₁
      else .broken rest
    | [] => .broken rest
  else .broken rest

/-- The characters of `bytes`, read in at most `fuel` steps; none where they are no UTF-8. -/
def decodeChars? : Nat → List UInt8 → Option (List Char)
  | _, [] => some []
  | 0, _ :: _ => none
  | fuel + 1, b :: rest =>
    match nextChar b rest with
    | .char c rest' => (decodeChars? fuel rest').map (c :: ·)
    | .broken _ => none

/-- The text that `bytes` encode; none where they are no UTF-8. -/
def decode? (bytes : List UInt8) : Option String :=
  (decodeChars? bytes.length bytes).map String.ofList

/-- The characters of `bytes`, with U+FFFD for each broken beginning, read in at most `fuel`
steps. -/
def decodeLossyChars : Nat → List UInt8 → List Char
  | _, [] => []
  | 0, _ :: _ => []
  | fuel + 1, b :: rest =>
    match nextChar b rest with
    | .char c rest' => c :: decodeLossyChars fuel rest'
    | .broken rest' => '\ufffd' :: decodeLossyChars fuel rest'

/-- The text of `bytes`, with U+FFFD for each broken beginning of a character. -/
def decodeLossy (bytes : List UInt8) : String :=
  String.ofList (decodeLossyChars bytes.length bytes)

/-- The bytes of `s`. -/
def encode (s : String) : List UInt8 :=
  s.toUTF8.toList

end StorySuite.Text.Utf8
