import StorySuite.Script.Parser.Type

/-!
# Script — patterns and assignment targets

A pattern is read as such where it declares variables.  Where it assigns to places that exist, an
expression has been read before the sign of the assignment is seen, and is then taken as a target.
-/

namespace StorySuite.Script

namespace Expr

/-- A part of the access path is left out when what it is a part of is missing. -/
def isOptional : Expr → Bool
  | .member e _ o => o || e.isOptional
  | .privateMember e _ o => o || e.isOptional
  | .index e _ o => o || e.isOptional
  | .call e _ _ o _ => o || e.isOptional
  | .cast .nonNull _ e => e.isOptional
  | _ => false

/-- A variable or a member, in parentheses or with a type at will. -/
def isPlace : Expr → Bool
  | .name _ => true
  | e@(.member ..) | e@(.privateMember ..) | e@(.index ..) => !e.isOptional
  | .paren e => e.isPlace
  | .cast .instantiation _ _ => false
  | .cast _ _ e => e.isPlace
  | _ => false

mutual

/-- The expression as the target of an assignment within a pattern. -/
def toPart? : Expr → Option Pattern
  | .assign none p value => some (.withDefault p value)
  | .hole => some .hole
  | .spread e => (toPart? e).bind fun p =>
    match p with
    | .withDefault .. => none
    | p => some (.rest p)
  | .array items => (toParts? items).map .array
  | .object properties => (toProperties? properties).map .object
  | e => if e.isPlace then some (.target e) else none

/-- The items of an array as a pattern's; the rest is the last one. -/
def toParts? : List Expr → Option (List Pattern)
  | [] => some []
  | e :: es =>
    match e, es with
    | .spread _, _ :: _ => none
    | _, _ => do
      let p ← toPart? e
      let ps ← toParts? es
      pure (p :: ps)

/-- The properties of an object as a pattern's. -/
def toProperties? : List Property → Option (List Pattern)
  | [] => some []
  | f :: fs => do
    let p ← toProperty? f
    let ps ← toProperties? fs
    match p, ps with
    | .rest _, _ :: _ => none
    | p, ps => pure (p :: ps)

/-- A property of an object as a pattern's. -/
def toProperty? : Property → Option Pattern
  | .shorthand s => some (.property (.name s) true (.target (.name s)))
  | .initialized s v => some (.property (.name s) true (.withDefault (.target (.name s)) v))
  | .value key e => (toPart? e).map (.property key false)
  | .spread e => if e.isPlace then some (.rest (.target e)) else none
  | .method .. => none

end

/-- The expression as the target of an assignment. -/
def toTarget? (e : Expr) : Option Pattern :=
  match e with
  | .assign .. | .hole | .spread _ => none
  | e => toPart? e

/-- The expression is an object or a list, and so becomes a pattern when it is assigned to. -/
def isComposite : Expr → Bool
  | .array _ | .object _ => true
  | _ => false

end Expr

namespace Parser

/-- The name of a property. -/
def propertyKey (g : Grammar) : Parser PropertyKey := do
  match ← token with
  | .name s _ =>
    advance
    return .name s
  | .string t _ =>
    advance
    return .string t
  | .number x =>
    advance
    return .number x
  | .bigint n =>
    advance
    return .bigint n
  | .sign "[" =>
    advance
    let e ← within ({ · with allowIn := true }) g.assignment
    sign "]"
    return .computed e
  | _ => failure

/-- A pattern with a value that it has by default. -/
def patternPart (g : Grammar) : Parser Pattern := do
  let p ← g.pattern
  if ← takeSign "=" then
    return .withDefault p (← within ({ · with allowIn := true }) g.assignment)
  else return p

/-- All that is left, which stands last before the sign `close`. -/
def restPart (g : Grammar) (close : String) : Parser Pattern := do
  sign "..."
  let p ← g.pattern
  ensure (← atSign close)
  return .rest p

/-- An item of a list that is taken apart. -/
def patternItem (g : Grammar) : Parser Pattern := do
  if ← atSign "," then return .hole
  else if ← atSign "..." then restPart g "]"
  else patternPart g

/-- A property of an object that is taken apart. -/
def patternProperty (g : Grammar) : Parser Pattern := do
  if ← atSign "..." then restPart g "\x7d"
  else
    let shorthand ← seems do
      let _ ← variableName
      return !(← atSign ":")
    if shorthand then
      let s ← variableName
      if ← takeSign "=" then
        let value ← within ({ · with allowIn := true }) g.assignment
        return .property (.name s) true (.withDefault (.name s) value)
      else return .property (.name s) true (.name s)
    else
      let key ← propertyKey g
      sign ":"
      return .property key false (← patternPart g)

/-- A pattern that declares variables. -/
def patternProduction (g : Grammar) : Parser Pattern := do
  match ← token with
  | .sign "[" =>
    advance
    return .array (← separated "]" (patternItem g))
  | .sign "\x7b" =>
    advance
    let ps ← separated "\x7d" (patternProperty g)
    ensure (ps.all fun
      | .rest (.name _) => true
      | .rest _ => false
      | _ => true)
    return .object ps
  | _ => return .name (← variableName)

end Parser

end StorySuite.Script
