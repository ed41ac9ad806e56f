import StorySuite.Decimal.Shortest
import StorySuite.Hook
import StorySuite.Script.Exports
import StorySuite.Script.Mentions

/-!
# Script — the hooks of a default export

What a module's default export holds is known without running the module when it is written out as
an object, in place or as the value of a `const` that nothing else uses, with neither spreads nor
computed keys in it or in its namespaces.
-/

namespace StorySuite.Script

open Decimal

/-- The layout of numbers as names of properties. -/
def keyLayout : Layout := ⟨-400, 400, false, true⟩

namespace PropertyKey

/-- The name of a property, when it is written out and not private. -/
def static? : PropertyKey → Option String
  | .name s => some s
  | .string t => some t.value
  | .number x => some ((x.map keyLayout.write).getD "inf")
  | .bigint n => some (toString n)
  | .privateName _ | .computed _ => none

end PropertyKey

namespace Expr

/-- The expression without parentheses and types around it. -/
def inner : Expr → Expr
  | .paren e => e.inner
  | .cast _ _ e => e.inner
  | e => e

/-- The properties of an object that is written out. -/
def written? (e : Expr) : Option (List Property) :=
  match e.inner with
  | .object ps => some ps
  | _ => none

end Expr

namespace Property

/-- The name of the property and its value, when the name is written out; a method's value is a
function. -/
def static? : Property → Option (String × Expr)
  | .value key e => (key.static?).map (·, e)
  | .shorthand s => some (s, .name s)
  | .initialized s _ => some (s, .name s)
  | .method _ key f => (key.static?).map (·, .function f)
  | .spread _ => none

end Property

/-- `hooks` and those among properties, which all have written names. -/
def markAll (hooks : HookSet) : List Property → Option HookSet
  | [] => some hooks
  | p :: ps => do
    let (name, _) ← p.static?
    markAll (hooks.mark name) ps

/-- `hooks` and those among the properties of a default export; the namespaces among them have to be
written out too. -/
def markDefault (namespaces : List String) (hooks : HookSet) : List Property → Option HookSet
  | [] => some hooks
  | p :: ps => do
    let (name, e) ← p.static?
    if namespaces.contains name then
      let hooks ← markAll hooks (← e.written?)
      markDefault namespaces hooks ps
    else markDefault namespaces (hooks.mark name) ps

/-- The hooks of a default export that is written out. -/
def hooksOf (namespaces : List String) (ps : List Property) : Option HookSet :=
  markDefault namespaces .empty ps

/-- What a module's default export is. -/
inductive DefaultTarget where
  | value (e : Expr)
  /-- A variable under the name of the default export. -/
  | variable (name : String)
  /-- A function, a class, a type, or something of another module. -/
  | other

namespace Stmt

/-- What a statement makes the default export, if it does. -/
def defaultTarget? : Stmt → Option DefaultTarget
  | .exportDefault (.expr e) => some (.value e)
  | .exportDefault _ => some .other
  | .exportNames _ bindings source =>
    (bindings.find? (·.exported.text == "default")).map fun b =>
      if source.isSome then .other else .variable b.name.text
  | _ => none

/-- The constants that a statement declares; it may say that they are defined elsewhere. -/
def constants : Stmt → List Pattern
  | .declaration .const ps | .ambient (.declaration .const ps) => ps
  | .exportDeclaration (.declaration .const ps) => ps
  | .exportDeclaration (.ambient (.declaration .const ps)) => ps
  | _ => []

/-- The value of a declared constant, by the name that is declared with it, when it is written out
as an object. -/
def constant? (name : String) (s : Stmt) : Option (List Property) :=
  s.constants.findSome? fun
    | .withDefault p e => if p.declared.contains name then e.written? else none
    | _ => none

end Stmt

namespace Program

/-- What the module's default export is, if there is one. -/
def defaultTarget? (p : Program) : Option DefaultTarget :=
  p.items.findSome? fun i => i.stmt.defaultTarget?

/-- How often a variable of the name is mentioned. -/
def mentionCount (p : Program) (name : String) : Nat :=
  p.mentions.countP fun
    | .variable s => s == name
    | .call .. => false

/-- The object that a constant is, when nothing but the export mentions it. -/
def constant? (p : Program) (name : String) : Option (List Property) :=
  if 1 < p.mentionCount name then none
  else p.items.findSome? fun i => i.stmt.constant? name

/-- The object that the target is, when it is written out. -/
def written? (p : Program) : DefaultTarget → Option (List Property)
  | .value e =>
    match e.inner with
    | .object ps => some ps
    | .name s => p.constant? s
    | _ => none
  | .variable s => p.constant? s
  | .other => none

/-- What can be said of the module's default export. -/
def defaultShape (p : Program) (namespaces : List String) : DefaultShape :=
  match p.defaultTarget? with
  | none => .absent
  | some target =>
    match (p.written? target).bind (hooksOf namespaces) with
    | some hooks => .literal hooks
    | none => .unknown

end Program

end StorySuite.Script
