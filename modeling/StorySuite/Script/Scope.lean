import StorySuite.Script.Exports
import StorySuite.Script.Shape

/-!
# Script — scopes

Which names a piece of a program declares, and which it uses without declaring them.  Types and what
is written in their place are passed over.
-/

namespace StorySuite.Script

/-! ### Declared names -/

mutual

/-- The variables that a statement declares for the whole function that it stands in. -/
def Stmt.hoisted : Stmt → List String
  | .declaration .var ps => declaredAll ps
  | .block items | .switch _ items | .case _ items | .handler _ items => hoistedAll items
  | .choice _ s t => s.hoisted ++ hoistedIn t
  | .forLoop init _ _ s => hoistedIn init ++ s.hoisted
  | .forIn kind p _ s | .forOf _ kind p _ s =>
    (if kind == some .var then p.declared else []) ++ s.hoisted
  | .whileLoop _ s | .doWhile s _ | .labeled _ s | .withScope _ s => s.hoisted
  | .exportDeclaration s => s.hoisted
  | .tryBlock items handler finalizer =>
    hoistedAll items ++ hoistedIn handler ++ hoistedIn finalizer
  | _ => []

/-- The variables that a statement, if there is one, declares for the whole function. -/
def hoistedIn : Option Stmt → List String
  | none => []
  | some s => s.hoisted

/-- The variables that statements declare for the whole function. -/
def hoistedAll : List Item → List String
  | [] => []
  | .mk _ s :: items => s.hoisted ++ hoistedAll items

end

namespace ImportBinding

/-- The variable that the import declares. -/
def declaredName : ImportBinding → String
  | .default name | .namespace name | .named _ name _ => name

end ImportBinding

namespace Stmt

/-- The names that a statement declares for the block that it stands in. -/
def lexical : Stmt → List String
  | .declaration kind ps => if kind == .var then [] else declaredAll ps
  | .function (.mk name ..) | .class (.mk _ name ..) => name.toList
  | .exportDeclaration (.declaration kind ps) => if kind == .var then [] else declaredAll ps
  | .exportDeclaration (.function (.mk name ..)) | .exportDeclaration (.class (.mk _ name ..))
  | .exportDefault (.function (.mk name ..)) => name.toList
  | .exportDefault (.class (.mk _ name ..)) => name.toList
  | .import _ bindings _ => (bindings.getD []).map ImportBinding.declaredName
  | _ => []

end Stmt

/-- The names that statements declare for the block that they stand in. -/
def lexicalAll (items : List Item) : List String :=
  items.flatMap fun i => i.stmt.lexical

/-- The names that the cases of a switch declare. -/
def caseNames (cases : List Item) : List String :=
  cases.flatMap fun i =>
    match i.stmt with
    | .case _ items => lexicalAll items
    | _ => []

/-- The names that a body declares. -/
def bodyNames (items : List Item) : List String :=
  hoistedAll items ++ lexicalAll items

/-- The names that the beginning of a loop declares. -/
def loopNames : Option Stmt → List String
  | some (.declaration kind ps) => if kind == .var then [] else declaredAll ps
  | _ => []

/-- The names without those that are declared. -/
def without (declared names : List String) : List String :=
  names.filter (!declared.contains ·)

/-! ### Used names -/

/-- A use of a name. -/
structure Use where
  name : String
  /-- The variable is given another value. -/
  assigns : Bool := false
  deriving DecidableEq

/-- The uses of names other than those that are declared. -/
def outside (declared : List String) (uses : List Use) : List Use :=
  uses.filter fun u => !declared.contains u.name

/-- The use of a name, if an expression is one, as an assignment. -/
def asTarget (e : Expr) (uses : List Use) : List Use :=
  match e.bare with
  | .name s => [{ name := s, assigns := true }]
  | _ => uses

mutual

/-- The names that an expression uses without declaring them. -/
def Expr.uses : Expr → List Use
  | .name s => [{ name := s }]
  | .literal _ | .this | .super | .newTarget | .importMeta | .elementText _ | .hole => []
  | .template _ es | .array es | .sequence es | .importCall _ es => usesOfAll es
  | .tagged tag _ _ es => tag.uses ++ usesOfAll es
  | .object ps => usesOfProperties ps
  | .function f | .arrow f => f.uses
  | .class c => c.uses
  | .update _ _ e => asTarget e e.uses
  | .unary _ e | .await e | .paren e | .spread e | .privateIn _ e
  | .member e _ _ | .privateMember e _ _ | .cast _ _ e => e.uses
  | .binary _ a b | .index a b _ => a.uses ++ b.uses
  | .assign _ p e => p.uses ++ e.uses
  | .conditional a b c => a.uses ++ b.uses ++ c.uses
  | .call f _ es _ _ | .new f _ es _ => f.uses ++ usesOfAll es
  | .yield _ e => usesIn e
  | .element _ _ ps cs => usesOfProperties ps ++ usesOfAll cs

/-- The names that expressions use. -/
def usesOfAll : List Expr → List Use
  | [] => []
  | e :: es => e.uses ++ usesOfAll es

/-- The names that an expression uses, if there is one. -/
def usesIn : Option Expr → List Use
  | none => []
  | some e => e.uses

/-- The names that a pattern uses; the variables that it declares are none of them. -/
def Pattern.uses : Pattern → List Use
  | .name _ | .hole => []
  | .target e => asTarget e e.uses
  | .array ps | .object ps => usesOfPatterns ps
  | .property key _ p => key.uses ++ p.uses
  | .withDefault p e => p.uses ++ e.uses
  | .typed p _ | .rest p => p.uses
  | .parameter ds _ p => usesOfAll ds ++ p.uses

/-- The names that patterns use. -/
def usesOfPatterns : List Pattern → List Use
  | [] => []
  | p :: ps => p.uses ++ usesOfPatterns ps

/-- The names that the name of a property uses. -/
def PropertyKey.uses : PropertyKey → List Use
  | .computed e => e.uses
  | .name _ | .string _ | .number _ | .bigint _ | .privateName _ => []

/-- The names that a property uses. -/
def Property.uses : Property → List Use
  | .value key e => key.uses ++ e.uses
  | .shorthand s => [{ name := s }]
  | .initialized s e => { name := s } :: e.uses
  | .method _ key f => key.uses ++ f.uses
  | .spread e => e.uses

/-- The names that properties use. -/
def usesOfProperties : List Property → List Use
  | [] => []
  | p :: ps => p.uses ++ usesOfProperties ps

/-- The names that a function uses. -/
def Function.uses : Function → List Use
  | .mk name _ _ _ ps _ body =>
    outside (name.toList ++ declaredAll ps ++ bodyNames body)
      (usesOfPatterns ps ++ usesOfItems body)

/-- The names that a class uses. -/
def Class.uses : Class → List Use
  | .mk ds name _ parent members =>
    usesOfAll ds ++ outside name.toList (usesIn parent ++ usesOfMembers members)

/-- The names that a member of a class uses. -/
def Member.uses : Member → List Use
  | .method _ ds _ _ key f => usesOfAll ds ++ key.uses ++ f.uses
  | .field _ ds _ _ _ key _ e => usesOfAll ds ++ key.uses ++ usesIn e
  | .block _ items => outside (bodyNames items) (usesOfItems items)
  | .signature _ => []

/-- The names that members of a class use. -/
def usesOfMembers : List Member → List Use
  | [] => []
  | m :: ms => m.uses ++ usesOfMembers ms

/-- The names that a statement uses. -/
def Stmt.uses : Stmt → List Use
  | .block items => outside (lexicalAll items) (usesOfItems items)
  | .expr e | .throw e | .exportAssignment e => e.uses
  | .declaration _ ps => usesOfPatterns ps
  | .function f => f.uses
  | .class c => c.uses
  | .choice e s t => e.uses ++ s.uses ++ usesOfBranch t
  | .forLoop init test step s =>
    outside (loopNames init) (usesOfBranch init ++ usesIn test ++ usesIn step ++ s.uses)
  | .forIn kind p e s | .forOf _ kind p e s =>
    outside (if kind.isSome then p.declared else []) (p.uses ++ e.uses ++ s.uses)
  | .whileLoop e s | .withScope e s => e.uses ++ s.uses
  | .doWhile s e => s.uses ++ e.uses
  | .return e => usesIn e
  | .switch e cases => e.uses ++ outside (caseNames cases) (usesOfItems cases)
  | .case e items => usesIn e ++ usesOfItems items
  | .tryBlock items handler finalizer =>
    outside (lexicalAll items) (usesOfItems items) ++ usesOfBranch handler ++ usesOfBranch finalizer
  | .handler p items => outside (p.declared ++ lexicalAll items) (p.uses ++ usesOfItems items)
  | .labeled _ s | .exportDeclaration s | .exportDefault s => s.uses
  | .exportNames _ bindings source =>
    if source.isSome then [] else bindings.map fun b => { name := b.name.text }
  | _ => []

/-- The names that a statement uses, if there is one. -/
def usesOfBranch : Option Stmt → List Use
  | none => []
  | some s => s.uses

/-- The names that statements use; those that they declare themselves are among them. -/
def usesOfItems : List Item → List Use
  | [] => []
  | .mk _ s :: items => s.uses ++ usesOfItems items

end

namespace Stmt

/-- The names that a statement uses without declaring them further in. -/
def free (s : Stmt) : List String :=
  s.uses.map Use.name

end Stmt

namespace Class

/-- The class uses its own name. -/
def usesItself : Class → Bool
  | .mk ds name _ parent members =>
    (usesOfAll ds ++ usesIn parent ++ usesOfMembers members).any fun u => some u.name == name

end Class

/-- The names that statements use without declaring them further in. -/
def freeOfItems (items : List Item) : List String :=
  (usesOfItems items).map Use.name

/-- The names that statements assign. -/
def assignedIn (items : List Item) : List String :=
  ((usesOfItems items).filter Use.assigns).map Use.name

end StorySuite.Script
