import StorySuite.Decimal.Shortest
import StorySuite.Script.Syntax

/-!
# Script — the constants of enumerations

The value of a member of an enumeration, where it can be told from the program: numbers and texts,
the operators on them, and members whose values are known already.  A number that is not finite is
not told.
-/

namespace StorySuite.Script

open Decimal

/-- A value that can be told from a program. -/
inductive Constant where
  | number (x : Binary64)
  | text (t : StringValue)
  deriving DecidableEq

/-- What is known of enumerations: for each the values of its members, where they are known, the
last one first. -/
abbrev Enumerations := List (String × List (String × Option Constant))

namespace Enumerations

/-- What is known of the members of the enumeration `name`. -/
def members (known : Enumerations) (name : String) : List (String × Option Constant) :=
  (known.lookup name).getD []

end Enumerations

/-! ### Arithmetic -/

namespace Constant

/-- The value as a fraction. -/
def fraction (x : Binary64) : Int × Nat :=
  let (n, d) := x.ratio
  (if x.negative then -n else n, d)

/-- The number nearest to a fraction. -/
def ofFraction? (num : Int) (den : Nat) : Option Binary64 :=
  if den = 0 then none else Binary64.ofRatio? (num < 0) num.natAbs den

/-- The whole part, kept to 32 bits. -/
def bits (x : Binary64) : Nat :=
  let (n, d) := fraction x
  ((n.tdiv d) % 4294967296).toNat

/-- The number of 32 bits. -/
def ofBits? (n : Nat) : Option Binary64 :=
  Binary64.ofInt? (if n < 2147483648 then n else (n : Int) - 4294967296)

/-- A power with a whole exponent. -/
def power? (x y : Binary64) : Option Binary64 := do
  let k ← y.toInt?
  if 1100 < k.natAbs then none
  else
    let (n, d) := fraction x
    if 0 ≤ k then ofFraction? (n.pow k.toNat) (d.pow k.toNat)
    else
      let down := n.pow k.natAbs
      ofFraction? (if down < 0 then -(d.pow k.natAbs : Nat) else (d.pow k.natAbs : Nat)) down.natAbs

/-- The value of an operator on two numbers. -/
def arithmetic? (op : BinaryOp) (x y : Binary64) : Option Binary64 :=
  let (a, b) := fraction x
  let (c, d) := fraction y
  let shift := bits y % 32
  match op with
  | .add => ofFraction? (a * d + c * b) (b * d)
  | .sub => ofFraction? (a * d - c * b) (b * d)
  | .mul => ofFraction? (a * c) (b * d)
  | .div => ofFraction? (if c < 0 then -(a * d) else a * d) (b * c.natAbs)
  | .rem => if c = 0 then none else ofFraction? ((a * d).tmod (c * b)) (b * d)
  | .pow => power? x y
  | .bitOr => ofBits? (bits x ||| bits y)
  | .bitAnd => ofBits? (bits x &&& bits y)
  | .bitXor => ofBits? (bits x ^^^ bits y)
  | .shl => ofBits? ((bits x <<< shift) % 4294967296)
  | .shrUnsigned => Binary64.ofInt? ((bits x >>> shift : Nat) : Int)
  | .shr =>
    let n := bits x
    let whole : Int := if n < 2147483648 then n else (n : Int) - 4294967296
    Binary64.ofInt? (whole.fdiv (Nat.pow 2 shift : Nat))
  | _ => none

/-- The value as a text. -/
def asText : Constant → StringValue
  | .number x =>
    { value := Layout.script.write (if x.isZero then Binary64.zero false else x) }
  | .text t => t

/-- Two texts as one. -/
def append (s t : StringValue) : StringValue :=
  { value := s.value ++ t.value, lone := s.lone || t.lone }

/-- The value of an operator on two values. -/
def binary? (op : BinaryOp) (x y : Constant) : Option Constant :=
  match x, y with
  | .number a, .number b => (arithmetic? op a b).map .number
  | _, _ => if op == .add then some (.text (append x.asText y.asText)) else none

/-- The value of an operator on a value. -/
def unary? (op : UnaryOp) (x : Constant) : Option Constant :=
  match op, x with
  | .plus, _ => some x
  | .minus, .number a => some (.number a.neg)
  | .bitNot, .number a => (ofBits? (4294967295 - bits a)).map .number
  | .bitNot, .text _ => (Binary64.ofInt? (-1)).map .number
  | _, _ => none

/-- The pieces of a template, put together with the texts of its values. -/
def joined : List Chunk → List Constant → Option StringValue
  | [c], [] => c.text
  | c :: cs, v :: vs => do pure (append (append (← c.text) v.asText) (← joined cs vs))
  | _, _ => none

/-- The value as an expression. -/
def toExpr : Constant → Expr
  | .text t => .literal (.string t)
  | .number x =>
    if x.negative && !x.isZero then .unary .minus (.literal (.number (some x.neg)))
    else .literal (.number (some x))

/-- The number that follows. -/
def next? : Constant → Option Constant
  | .number x => ((Binary64.ofInt? 1).bind (arithmetic? .add x)).map .number
  | .text _ => none

end Constant

/-! ### Evaluation -/

mutual

/-- The value of an expression among the members of the enumeration `self`. -/
def Expr.constant? (known : Enumerations) (self : String) : Expr → Option Constant
  | .literal (.number (some x)) => some (.number x)
  | .literal (.string t) => some (.text t)
  | .name s => ((known.members self).lookup s).join
  | .member (.name s) property _ => ((known.members s).lookup property).join
  | .index (.name s) (.literal (.string t)) _ => ((known.members s).lookup t.value).join
  | .paren e => e.constant? known self
  | .unary op e => (e.constant? known self).bind (Constant.unary? op)
  | .binary op a b => do Constant.binary? op (← a.constant? known self) (← b.constant? known self)
  | .template chunks es => do
    (Constant.joined chunks (← constants? known self es)).map .text
  | _ => none

/-- The values of expressions. -/
def constants? (known : Enumerations) (self : String) : List Expr → Option (List Constant)
  | [] => some []
  | e :: es => do pure ((← e.constant? known self) :: (← constants? known self es))

end

/-- The name of a member of an enumeration. -/
def Property.memberName : Property → String
  | .value (.name s) _ | .shorthand s => s
  | _ => ""

/-- What is known of the members of an enumeration, the last one first.  A member without a value
has the number after that of the one before it. -/
def memberConstants (known : Enumerations) (name : String) :
    List (String × Option Constant) → Option Constant → List Property →
    List (String × Option Constant)
  | before, _, [] => before
  | before, previous, m :: ms =>
    let value := match m with
      | .value _ e => e.constant? ((name, before) :: known) name
      | _ => previous.bind Constant.next?
    memberConstants known name ((m.memberName, value) :: before) value ms

namespace Enumerations

/-- What is known after the enumeration `name` with the given members. -/
def extend (known : Enumerations) (name : String) (members : List Property) : Enumerations :=
  let first := (Decimal.Binary64.ofInt? (-1)).map Constant.number
  (name, memberConstants known name (known.members name) first members) :: known

end Enumerations

end StorySuite.Script
