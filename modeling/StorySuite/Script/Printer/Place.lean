import StorySuite.Script.Operator
import StorySuite.Script.Shape

/-!
# Script — places

Where an expression stands when it is written, which decides whether it needs brackets: how tightly
its surroundings bind, what it is the beginning of, and what may not be written there.
-/

namespace StorySuite.Script

namespace Level

/-- Nothing needs brackets. -/
def lowest : Nat := 0
/-- Between commas. -/
def comma : Nat := 1
/-- Behind `yield`, and in the branches of a choice. -/
def yield : Nat := 3
/-- Assignments and arrows. -/
def assign : Nat := 4
/-- Choices. -/
def conditional : Nat := 5
/-- Comparisons. -/
def compare : Nat := 13
/-- Powers. -/
def pow : Nat := 17
/-- Operators in front of an operand. -/
def sign : Nat := 18
/-- Operators behind an operand, and what a member is taken of. -/
def suffix : Nat := 19
/-- What `new` makes. -/
def new : Nat := 20
/-- Nothing but names and brackets goes without brackets. -/
def call : Nat := 21

end Level

namespace BinaryOp

/-- The level of the operator. -/
def level (op : BinaryOp) : Nat :=
  op.precedence + Level.conditional

end BinaryOp

/-- What the first word of an expression is the first word of. -/
inductive Head where
  | inside
  | statement
  | arrowBody
  | defaultExport
  deriving DecidableEq

/-- The place of an expression. -/
structure Place where
  /-- How tightly its surroundings bind. -/
  level : Nat
  head : Head
  /-- `in` may be written. -/
  allowIn : Bool
  /-- A call may be written. -/
  allowCall : Bool
  /-- How many levels the statement is deep. -/
  depth : Nat

namespace Place

/-- A place between others of a list, or behind a word. -/
def plain (level depth : Nat) : Place :=
  { level, head := .inside, allowIn := true, allowCall := true, depth }

/-- The place inside, at `level`, when brackets are put around it where `wrapped`. -/
def inner (p : Place) (wrapped : Bool) (level : Nat) : Place :=
  { p with
    level
    head := if wrapped then .inside else p.head
    allowIn := p.allowIn || wrapped
    allowCall := true }

/-- A place behind the first word. -/
def after (p : Place) : Place :=
  { p with head := .inside }

/-- A function or class here would be taken for a declaration. -/
def declares (p : Place) : Bool :=
  p.head == .statement || p.head == .defaultExport

/-- A brace here would be taken for a block. -/
def opensBlock (p : Place) : Bool :=
  p.head == .statement || p.head == .arrowBody

end Place

namespace BinaryOp

/-- The level around the left operand `a`. -/
def leftLevel (op : BinaryOp) (a : Expr) : Nat :=
  match op, a.bare with
  | .pow, .unary .. | .pow, .await _ => Level.call
  | .pow, _ => op.level
  | .nullish, .binary .or .. | .nullish, .binary .and .. => Level.sign
  | _, _ => op.level - 1

/-- The level around the right operand `b`. -/
def rightLevel (op : BinaryOp) (b : Expr) : Nat :=
  match op, b.bare with
  | .pow, _ => op.level - 1
  | .nullish, .binary .or .. | .nullish, .binary .and .. => Level.sign
  | _, _ => op.level

end BinaryOp

end StorySuite.Script
