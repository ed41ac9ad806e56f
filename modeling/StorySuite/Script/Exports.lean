import StorySuite.Script.Syntax

/-!
# Script — the names that a module exports

The names under which a module exports values, in source order.  Types are not exported, and the
names behind `export *` are known only to the module that they come from.
-/

namespace StorySuite.Script

mutual

/-- The variables that a pattern declares, in order. -/
def Pattern.declared : Pattern → List String
  | .name s => [s]
  | .target _ | .hole => []
  | .array ps | .object ps => declaredAll ps
  | .property _ _ p | .withDefault p _ | .typed p _ | .parameter _ _ p | .rest p => p.declared

/-- The variables that patterns declare, in order. -/
def declaredAll : List Pattern → List String
  | [] => []
  | p :: ps => p.declared ++ declaredAll ps

end

namespace Stmt

/-- The names that a declaration exports when it is exported. -/
def declaredValues : Stmt → List String
  | .declaration _ ps => declaredAll ps
  | .function (.mk name ..) => name.toList
  | .class (.mk _ name ..) => name.toList
  | .enum name _ => [name]
  | _ => []

/-- The names that a statement exports. -/
def exports : Stmt → List String
  | .exportDefault _ => ["default"]
  | .exportDeclaration s => s.declaredValues
  | .exportNames false bindings _ => (bindings.filter (!·.typeOnly)).map (·.exported.text)
  | .exportAll false (some as) _ => [as.text]
  | _ => []

/-- The module whose names a statement exports without naming them. -/
def starSource? : Stmt → Option String
  | .exportAll false none source => some source.text.value
  | _ => none

end Stmt

namespace Program

/-- The names that a module exports, in source order. -/
def exports (p : Program) : List String :=
  p.items.flatMap fun i => i.stmt.exports

/-- The modules whose names are exported without being named. -/
def starSources (p : Program) : List String :=
  p.items.filterMap fun i => i.stmt.starSource?

/-- No name is exported twice. -/
def exportsOnce (p : Program) : Bool :=
  decide p.exports.Nodup

end Program

end StorySuite.Script
