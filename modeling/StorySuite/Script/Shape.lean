import StorySuite.Script.Syntax

/-!
# Script — shapes

Simple questions about the form of a piece of a program.
-/

namespace StorySuite.Script

namespace Expr

/-- Without brackets. -/
def bare : Expr → Expr
  | .paren e => e.bare
  | e => e

/-- A chain of members and calls, of which one is left out where there is nothing. -/
def isChain : Expr → Bool
  | .member e _ optional | .privateMember e _ optional => optional || e.isChain
  | .index e _ optional => optional || e.isChain
  | .call e _ _ optional _ => optional || e.isChain
  | .cast .nonNull _ e => e.isChain
  | _ => false

/-- A function. -/
def isFunction : Expr → Bool
  | .function _ | .arrow _ => true
  | _ => false

/-- A text. -/
def isText : Expr → Bool
  | .literal (.string _) => true
  | _ => false

/-- A missing item. -/
def isHole : Expr → Bool
  | .hole => true
  | _ => false

/-- The expression is called or named at once, so that it needs no brackets as a decorator. -/
def isDecoratorName : Expr → Bool
  | .name _ | .member .. | .privateMember .. => true
  | .call e _ _ _ _ => e.isDecoratorName
  | _ => false

end Expr

namespace Pattern

/-- An object, taken apart. -/
def isObject : Pattern → Bool
  | .object _ => true
  | _ => false

/-- The variable that the pattern is, but for a default. -/
def soleName? : Pattern → Option String
  | .name s | .target (.name s) => some s
  | .withDefault p _ | .typed p _ | .parameter _ _ p => p.soleName?
  | _ => none

/-- A missing item. -/
def isHole : Pattern → Bool
  | .hole => true
  | _ => false

end Pattern

namespace Function

/-- The function is only declared. -/
def isMissing : Function → Bool
  | .mk _ _ _ _ _ form _ => form == .missing

end Function

namespace Stmt

/-- Statements in braces. -/
def isBlock : Stmt → Bool
  | .block _ => true
  | _ => false

/-- A choice without an alternative ends the statement, so that a following alternative would be
taken for its own. -/
def endsInChoice : Stmt → Bool
  | .choice _ _ none => true
  | .choice _ _ (some s) => s.endsInChoice
  | .forLoop _ _ _ s | .forIn _ _ _ s | .forOf _ _ _ _ s | .whileLoop _ s | .withScope _ s
  | .labeled _ s => s.endsInChoice
  | _ => false

end Stmt

end StorySuite.Script
