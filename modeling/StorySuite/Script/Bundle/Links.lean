import StorySuite.Script.Scope
import StorySuite.Script.Token

/-!
# Script — what a module takes and gives

The imports of a plain module by the variables that they declare, its exports by their names, the
modules that it asks for, and what is left of it without them.
-/

namespace StorySuite.Script

/-- Something of another module: what it exports under a name, or all of it. -/
structure Foreign where
  source : String
  name : Option String
  deriving DecidableEq, Repr

namespace Foreign

/-- More than one exported name is taken at its word: the module has to look like one that exports
by name. -/
def needsWhole (f : Foreign) : Bool :=
  f.name.elim true (· == "default")

end Foreign

/-- Where an exported value comes from. -/
inductive Origin where
  /-- A variable of the module, which may be an imported one. -/
  | own (variableName : String)
  /-- What is passed on from another module. -/
  | foreign (f : Foreign)
  deriving DecidableEq, Repr

namespace ImportBinding

/-- What the import takes from `source`. -/
def foreign (source : String) : ImportBinding → Foreign
  | .default _ => ⟨source, some "default"⟩
  | .namespace _ => ⟨source, none⟩
  | .named imported _ _ => ⟨source, some imported.text⟩

end ImportBinding

namespace Stmt

/-- The variables that a statement imports. -/
def imported : Stmt → List (String × Foreign)
  | .import _ bindings source =>
    (bindings.getD []).map fun b => (b.declaredName, b.foreign source.text.value)
  | _ => []

/-- The module that a statement asks for, but for one whose names are passed on unseen. -/
def requested? : Stmt → Option String
  | .import _ _ source => some source.text.value
  | .exportNames _ _ (some source) => some source.text.value
  | .exportAll _ (some _) source => some source.text.value
  | _ => none

/-- The exports of a statement; `name` is the variable of a default export that has no name. -/
def origins (name : String) : Stmt → List (String × Origin)
  | .exportDeclaration s => (s.hoisted ++ s.lexical).map fun x => (x, .own x)
  | .exportDefault s => [("default", .own (s.lexical.headD name))]
  | .exportNames _ bindings none => bindings.map fun b => (b.exported.text, .own b.name.text)
  | .exportNames _ bindings (some source) =>
    bindings.map fun b => (b.exported.text, .foreign ⟨source.text.value, some b.name.text⟩)
  | .exportAll _ (some as) source => [(as.text, .foreign ⟨source.text.value, none⟩)]
  | _ => []

/-- Variables that are declared together, each on its own. -/
def apart : Stmt → List Stmt
  | .declaration kind ps =>
    if kind == .using || kind == .awaitUsing then [.declaration kind ps]
    else ps.map fun p => .declaration kind [p]
  | s => [s]

/-- A class as the value of a variable; it keeps its name where it uses it itself. -/
def asVariable : Stmt → Stmt
  | .class (.mk ds (some name) types parent members) =>
    let c := Class.mk ds (some name) types parent members
    let own := if c.usesItself then some name else none
    .declaration .var [.withDefault (.name name) (.class (.mk ds own types parent members))]
  | s => s

/-- The statements of a module without imports and exports; `name` is the variable of a default
export that has no name. -/
def body (name : String) : Stmt → List Stmt
  | .import .. | .exportNames .. | .exportAll .. | .empty => []
  | .exportDeclaration s => s.apart
  | .exportDefault (.expr e) => [.declaration .var [.withDefault (.name name) e]]
  | .exportDefault (.function (.mk none isAsync isGenerator types ps form items)) =>
    [.function (.mk (some name) isAsync isGenerator types ps form items)]
  | .exportDefault (.class (.mk ds none types parent members)) =>
    [.declaration .var [.withDefault (.name name) (.class (.mk ds none types parent members))]]
  | .exportDefault s => [s]
  | s => s.apart

end Stmt

/-- A module taken apart. -/
structure Links where
  /-- The imported variables. -/
  imports : List (String × Foreign)
  /-- The exports in the order of their names. -/
  exports : List (String × Origin)
  /-- The modules that are asked for, each once, in order. -/
  requests : List String
  /-- The modules whose names are passed on unseen, each once, in order. -/
  stars : List String
  /-- What is left. -/
  body : List Item

namespace Program

/-- The module taken apart; `name` is the variable of a default export that has no name. -/
def links (name : String) (p : Program) : Links :=
  let stmts := p.items.map Item.stmt
  { imports := stmts.flatMap Stmt.imported
    exports := (stmts.flatMap (Stmt.origins name)).mergeSort fun a b => decide (a.1 ≤ b.1)
    requests := (stmts.filterMap Stmt.requested?).eraseDups
    stars := (stmts.filterMap Stmt.starSource?).eraseDups
    body := p.items.flatMap fun i =>
      match i.stmt.body name with
      | [] => []
      | s :: ss => .mk i.comments s :: ss.map Item.plain }

end Program

end StorySuite.Script
