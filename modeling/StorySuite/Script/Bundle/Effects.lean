import StorySuite.Script.Scope

/-!
# Script — statements that do nothing but declare

Whether the evaluation of an expression may do anything besides giving a value.  Reading a property
may, as it may be computed, and so may reading a variable that nothing is known of.
-/

namespace StorySuite.Script

/-- Variables that are always there. -/
def standardNames : List String := [
  "Array", "ArrayBuffer", "Atomics", "BigInt", "BigInt64Array", "BigUint64Array", "Boolean",
  "DataView", "Date", "Error", "EvalError", "Float32Array", "Float64Array", "Function", "Infinity",
  "Int16Array", "Int32Array", "Int8Array", "Intl", "JSON", "Map", "Math", "NaN", "Number", "Object",
  "Promise", "Proxy", "RangeError", "ReferenceError", "Reflect", "RegExp", "Set",
  "SharedArrayBuffer", "String", "Symbol", "SyntaxError", "TypeError", "URIError", "Uint16Array",
  "Uint32Array", "Uint8Array", "Uint8ClampedArray", "WeakMap", "WeakSet", "console", "decodeURI",
  "decodeURIComponent", "document", "encodeURI", "encodeURIComponent", "escape", "eval",
  "globalThis", "isFinite", "isNaN", "parseFloat", "parseInt", "undefined", "unescape", "window"]

namespace Literal

/-- A value that is no object. -/
def isPrimitive : Literal → Bool
  | .regex .. => false
  | _ => true

end Literal

namespace Expr

/-- The value is no object, whatever it is. -/
def isPrimitive : Expr → Bool
  | .literal l => l.isPrimitive
  | .template .. => true
  | .unary op _ => op == .not || op == .typeof || op == .void
  | .paren e => e.isPrimitive
  | .name s => s == "undefined" || s == "NaN" || s == "Infinity"
  | _ => false

end Expr

namespace BinaryOp

/-- The operator looks at its operands without asking them. -/
def isSilent : BinaryOp → Bool
  | .eqStrict | .neStrict | .nullish | .or | .and => true
  | _ => false

end BinaryOp

mutual

/-- The evaluation of an expression does nothing besides giving a value; the variables `known` may
be read. -/
def Expr.isPure (known : List String) : Expr → Bool
  | .name s => known.contains s || standardNames.contains s
  | .literal _ | .function _ | .arrow _ | .this | .importMeta | .newTarget | .hole => true
  | .template _ es => arePure known es && es.all Expr.isPrimitive
  | .array es => arePure known es
  | .object ps => arePureProperties known ps
  | .class c => c.isPure known
  | .unary .typeof (.name _) => true
  | .unary op e =>
    e.isPure known && (op == .not || op == .void || op == .typeof ||
      op != .delete && e.isPrimitive)
  | .binary op a b =>
    a.isPure known && b.isPure known && (op.isSilent ||
      op != .in && op != .instanceof && a.isPrimitive && b.isPrimitive)
  | .conditional a b c => a.isPure known && b.isPure known && c.isPure known
  | .sequence es => arePure known es
  | .paren e => e.isPure known
  | .call _ _ es _ pure => pure && arePure known es
  | .new f _ es pure => (pure || makesNothing f es) && arePure known es
  | _ => false
where
  /-- What is made is an empty container. -/
  makesNothing : Expr → List Expr → Bool
    | .name s, [] => ["Map", "Set", "WeakMap", "WeakSet", "Array", "Object", "Date"].contains s
    | _, _ => false

/-- The evaluation of expressions does nothing besides giving values. -/
def arePure (known : List String) : List Expr → Bool
  | [] => true
  | e :: es => e.isPure known && arePure known es

/-- The evaluation of an expression, if there is one, does nothing besides giving a value. -/
def isPureIn (known : List String) : Option Expr → Bool
  | none => true
  | some e => e.isPure known

/-- The evaluation of the name of a property does nothing. -/
def PropertyKey.isPure (known : List String) : PropertyKey → Bool
  | .computed e => e.isPure known && e.isPrimitive
  | _ => true

/-- The evaluation of properties does nothing. -/
def arePureProperties (known : List String) : List Property → Bool
  | [] => true
  | .value key e :: ps => key.isPure known && e.isPure known && arePureProperties known ps
  | .shorthand s :: ps =>
    (known.contains s || standardNames.contains s) && arePureProperties known ps
  | .method _ key _ :: ps => key.isPure known && arePureProperties known ps
  | _ => false

/-- The evaluation of a class does nothing. -/
def Class.isPure (known : List String) : Class → Bool
  | .mk ds name _ parent members =>
    ds.isEmpty && isPureIn known parent && arePureMembers (name.toList ++ known) members

/-- The evaluation of members of a class does nothing. -/
def arePureMembers (known : List String) : List Member → Bool
  | [] => true
  | .method _ ds _ _ key _ :: ms => ds.isEmpty && key.isPure known && arePureMembers known ms
  | .field _ ds isStatic _ _ key _ e :: ms =>
    ds.isEmpty && key.isPure known && (!isStatic || isPureIn known e) && arePureMembers known ms
  | .block _ items :: ms => items.isEmpty && arePureMembers known ms
  | .signature _ :: ms => arePureMembers known ms

end

namespace Pattern

/-- Declaring the pattern does nothing besides giving it a value. -/
def isPure (known : List String) : Pattern → Bool
  | .name _ => true
  | .withDefault (.name _) e => e.isPure known
  | _ => false

end Pattern

namespace Stmt

/-- The statement does nothing besides declaring names. -/
def isPure (known : List String) : Stmt → Bool
  | .empty | .ending | .directive _ | .function _ => true
  | .expr e => e.isPure known
  | .declaration kind ps => kind != .using && kind != .awaitUsing && ps.all (Pattern.isPure known)
  | .class c => c.isPure known
  | .block items => items.isEmpty
  | _ => false

end Stmt

/-! ### What is kept -/

/-- The names that are used by statements that act, by those that declare a name among `used`, or by
those that declare a name that these use, and so on for `steps` steps. -/
def reachable (known : List String) (items : List Item) : Nat → List String → List String
  | 0, used => used
  | steps + 1, used =>
    let more := items.flatMap fun i =>
      let s := i.stmt
      if !s.isPure known || (s.hoisted ++ s.lexical).any used.contains then s.free else []
    reachable known items steps (used ++ without used more.eraseDups)

/-- The statements that are kept where the names `used` are: those that act, and those that declare
what is used. -/
def kept (known used : List String) (items : List Item) : List Item :=
  let used := reachable known items items.length used
  items.filter fun i =>
    let s := i.stmt
    !s.isPure known || (s.hoisted ++ s.lexical).any used.contains

end StorySuite.Script
