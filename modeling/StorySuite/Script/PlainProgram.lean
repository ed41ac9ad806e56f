import StorySuite.Dialect
import StorySuite.Script.Plain

/-!
# Script — imports and exports of plain programs

A program with types, made plain, imports a name only where it uses it for a value, and exports a
name only where it may be one.  A program that was a module stays one: where all its imports and
exports go, it exports nothing in so many words.
-/

namespace StorySuite.Script

namespace ImportBinding

/-- The import is of a type. -/
def isTypeOnly : ImportBinding → Bool
  | .named _ _ typeOnly => typeOnly
  | _ => false

end ImportBinding

namespace Stmt

/-- The statement imports or exports. -/
def isModular : Stmt → Bool
  | .import .. | .exportNames .. | .exportAll .. | .exportDeclaration _ | .exportDefault _ => true
  | _ => false

/-- The names of types that a statement declares. -/
def typeNames : Stmt → List String
  | .typeName name _ => [name]
  | .exportDeclaration (.typeName name _) => [name]
  | .import kind bindings _ =>
    let ofTypes := (bindings.getD []).filter fun b => kind == .types || b.isTypeOnly
    ofTypes.map ImportBinding.declaredName
  | .importAlias true name _ => [name]
  | .namespace (name :: _) _ | .exportDeclaration (.namespace (name :: _) _) => [name]
  | _ => []

/-- The names that a declaration of something elsewhere declares. -/
def ambientNames : Stmt → List String
  | .ambient s | .exportDeclaration (.ambient s) => s.declaredValues
  | .importAlias false name _ => [name]
  | _ => []

/-- What is left of a plain statement where the names `used` are used for values and the names
`types` are those of types. -/
def resolved? (used types : List String) : Stmt → Option Stmt
  | .import kind (some bs) source =>
    if kind == .types then none
    else if bs.isEmpty then some (.import kind none source)
    else
      match bs.filter fun b => !b.isTypeOnly && used.contains b.declaredName with
      | [] => none
      | kept => some (.import kind (some kept) source)
  | .importAlias typeOnly name target =>
    if typeOnly || !used.contains name then none else some (target.declaration name)
  | .exportNames typeOnly bs source =>
    if typeOnly then none
    else if bs.isEmpty then some (.exportNames false [] source)
    else
      match bs.filter fun b => !b.typeOnly && (source.isSome || !types.contains b.name.text) with
      | [] => none
      | kept => some (.exportNames false kept source)
  | .exportAll typeOnly as source => if typeOnly then none else some (.exportAll false as source)
  | .exportDefault (.expr (.name s)) =>
    if types.contains s then none else some (.exportDefault (.expr (.name s)))
  | s => some s

end Stmt

namespace Program

/-- The statement that makes a program a module. -/
def moduleMark : Item :=
  .plain (.exportNames false [] none)

/-- The imports and exports that are left of those of `items`, which were made plain of `source`. -/
def resolve (source items : List Item) : List Item :=
  let values := bodyNames (items.filter fun i => !i.stmt.typeNames.any fun _ => true) ++
    source.flatMap fun i => i.stmt.ambientNames
  let types := without values (source.flatMap fun i => i.stmt.typeNames)
  let used := freeOfItems items
  let left := items.filterMap fun i => (i.stmt.resolved? used types).map (.mk i.comments)
  let modular (is : List Item) := is.filter fun i => i.stmt.isModular
  if (modular left).isEmpty && !(modular source).isEmpty then left ++ [moduleMark] else left

/-- The program of the dialect without types and elements; none where there is no such program. -/
def plain? (dialect : Dialect) (p : Program) : Option Program := do
  let taken := freeOfItems p.items ++ bodyNames p.items
  let maker := ElementMaker.ofComments (p.items.flatMap (·.comments))
  if dialect.hasElements && maker.isNamed then none
  let (items, _) ← (plainItems { maker } p.items).run taken
  return { p with items := if dialect.hasTypes then resolve p.items items else items }

end Program

end StorySuite.Script
