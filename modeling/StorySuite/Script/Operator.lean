import StorySuite.Script.Token

/-!
# Script — operators

How operators are written and how tightly they bind.
-/

namespace StorySuite.Script

namespace UnaryOp

/-- The operator as it is written. -/
def text : UnaryOp → String
  | .plus => "+"
  | .minus => "-"
  | .not => "!"
  | .bitNot => "~"
  | .typeof => "typeof"
  | .void => "void"
  | .delete => "delete"

/-- The operator is a word. -/
def isWord : UnaryOp → Bool
  | .typeof | .void | .delete => true
  | _ => false

/-- The operator of a token. -/
def ofToken? : Token → Option UnaryOp
  | .sign "+" => some .plus
  | .sign "-" => some .minus
  | .sign "!" => some .not
  | .sign "~" => some .bitNot
  | .name "typeof" false => some .typeof
  | .name "void" false => some .void
  | .name "delete" false => some .delete
  | _ => none

end UnaryOp

namespace BinaryOp

/-- Every operator between operands. -/
def all : List BinaryOp := [
  .nullish, .or, .and, .bitOr, .bitXor, .bitAnd, .eq, .ne, .eqStrict, .neStrict, .lt, .le, .gt, .ge,
  .instanceof, .in, .shl, .shr, .shrUnsigned, .add, .sub, .mul, .div, .rem, .pow]

/-- The operator as it is written. -/
def text : BinaryOp → String
  | .nullish => "??"
  | .or => "||"
  | .and => "&&"
  | .bitOr => "|"
  | .bitXor => "^"
  | .bitAnd => "&"
  | .eq => "=="
  | .ne => "!="
  | .eqStrict => "==="
  | .neStrict => "!=="
  | .lt => "<"
  | .le => "<="
  | .gt => ">"
  | .ge => ">="
  | .instanceof => "instanceof"
  | .in => "in"
  | .shl => "<<"
  | .shr => ">>"
  | .shrUnsigned => ">>>"
  | .add => "+"
  | .sub => "-"
  | .mul => "*"
  | .div => "/"
  | .rem => "%"
  | .pow => "**"

/-- The operator that is written so. -/
def ofText? (s : String) : Option BinaryOp :=
  all.find? (·.text == s)

/-- How tightly the operator binds. -/
def precedence : BinaryOp → Nat
  | .nullish => 1
  | .or => 2
  | .and => 3
  | .bitOr => 4
  | .bitXor => 5
  | .bitAnd => 6
  | .eq | .ne | .eqStrict | .neStrict => 7
  | .lt | .le | .gt | .ge | .instanceof | .in => 8
  | .shl | .shr | .shrUnsigned => 9
  | .add | .sub => 10
  | .mul | .div | .rem => 11
  | .pow => 12

/-- The operator may be part of the sign of an assignment. -/
def mayAssign (op : BinaryOp) : Bool :=
  op.precedence < 7 || 8 < op.precedence

/-- The operator chooses between its operands. -/
def isLogical : BinaryOp → Bool
  | .nullish | .or | .and => true
  | _ => false

end BinaryOp

end StorySuite.Script
