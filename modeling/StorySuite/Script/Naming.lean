import StorySuite.Script.Scope

/-!
# Script — naming

Putting expressions in the place of names.  A name that is declared again further in means something
else there and stays; where it would be one that is to be avoided, it is given a number.
-/

namespace StorySuite.Script

/-- What names stand for. -/
structure Naming where
  /-- The expressions that stand in the place of names. -/
  values : List (String × Expr)
  /-- Names that nothing further in may be declared by. -/
  avoided : List String
  /-- A member that stands in the place of a name is called without its object. -/
  detached : Bool := false
  /-- The comments that are kept. -/
  keeps : Comment → Bool := fun _ => true
  /-- The constants among the names that statements declare; the first argument tells what names
  stand for around them. -/
  constants : List (String × Expr) → List Item → List (String × Expr) := fun _ _ => []
  /-- Names that are declared even where they stand for a constant. -/
  lasting : List String := []
  /-- A simpler form of an expression whose parts are as simple as they can be. -/
  reduced : Expr → Expr := id
  /-- A simpler form of a choice between statements. -/
  chosen : Stmt → Stmt := id
  /-- What stands in the place of the object that a module runs for; no function has that object. -/
  object : Expr := .this
  /-- What stands in the place of what a module knows of itself. -/
  facts : Expr := .importMeta

namespace Naming

/-- The expression that stands in the place of the name `s`. -/
def value (n : Naming) (s : String) : Expr :=
  (n.values.lookup s).getD (.name s)

/-- The name in the place of a declared one. -/
def declared (n : Naming) (s : String) : String :=
  match n.value s with
  | .name t => t
  | _ => s

/-- The first of `s`, `s$1`, `s$2`, … that is not among `taken`. -/
def fresh (taken : List String) (s : String) : String :=
  let candidates := s :: (List.range taken.length).map fun k => s ++ "$" ++ toString (k + 1)
  (candidates.find? (!taken.contains ·)).getD s

/-- The new names of declared ones, in order; `used` are those given already. -/
def freshAll (avoided : List String) : List String → List String → List (String × String)
  | _, [] => []
  | used, s :: ss =>
    let t := fresh (avoided ++ used) s
    (s, t) :: freshAll avoided (t :: used) ss

/-- What names stand for within a function that runs for an object of its own. -/
def apart (n : Naming) : Naming :=
  { n with object := .this }

/-- What names stand for where others are declared. -/
def enter (n : Naming) (names : List String) : Naming :=
  let given := freshAll n.avoided [] names.eraseDups
  { n with
    values := given.map (fun p => (p.1, .name p.2)) ++ n.values
    avoided := if n.avoided.isEmpty then [] else given.map (·.2) ++ n.avoided }

/-- What names stand for among statements that declare some, with the names `more` beside them. -/
def enterItems (n : Naming) (more names : List String) (items : List Item) : Naming :=
  let inner := n.enter (more ++ names)
  { inner with values := n.constants inner.values items ++ inner.values }

/-- A variable stands for a constant, so that it need not be declared. -/
def isConstant (n : Naming) : Pattern → Bool
  | .withDefault (.name s) _ =>
    !n.lasting.contains s &&
      match n.value s with
      | .literal _ | .unary .. => true
      | _ => false
  | _ => false

/-- A statement that declares nothing but constants. -/
def declaresConstants (n : Naming) : Stmt → Bool
  | .declaration _ ps | .exportDeclaration (.declaration _ ps) => ps.all n.isConstant
  | _ => false

/-- The function of a call, where `e` stands in the place of its name. -/
def callee (n : Naming) (e : Expr) : Expr :=
  match e with
  | .member .. | .index .. =>
    if n.detached then .paren (.sequence [.literal (.number (some (.zero false))), e]) else e
  | _ => e

/-- The property that stands in the place of a variable under its own name. -/
def property (n : Naming) (s : String) : Property :=
  match n.value s with
  | .name t => if s == t then .shorthand s else .value (.name s) (.name t)
  | e => .value (.name s) e

end Naming

mutual

/-- The expression with others in the place of its names. -/
def Expr.named (n : Naming) : Expr → Expr
  | .name s => n.value s
  | .literal l => .literal l
  | .template chunks es => .template chunks (namedAll n es)
  | .tagged tag types chunks es => .tagged (tag.named n) types chunks (namedAll n es)
  | .array es => .array (namedAll n es)
  | .object ps => .object (namedProperties n ps)
  | .function f => .function (f.named n.apart true)
  | .arrow f => .arrow (f.named n true)
  | .class c => .class (c.named n true)
  | .unary op e => n.reduced (.unary op (e.named n))
  | .update increment before e => .update increment before (e.named n)
  | .binary op a b => n.reduced (.binary op (a.named n) (b.named n))
  | .assign op p e => .assign op (p.named n) (e.named n)
  | .conditional a b c => n.reduced (.conditional (a.named n) (b.named n) (c.named n))
  | .call (.name s) types es optional pure =>
    .call (n.callee (n.value s)) types (namedAll n es) optional pure
  | .call f types es optional pure => .call (f.named n) types (namedAll n es) optional pure
  | .new f types es pure => .new (f.named n) types (namedAll n es) pure
  | .member e property optional => n.reduced (.member (e.named n) property optional)
  | .index e key optional => .index (e.named n) (key.named n) optional
  | .privateMember e property optional => .privateMember (e.named n) property optional
  | .privateIn property e => .privateIn property (e.named n)
  | .sequence es => .sequence (namedAll n es)
  | .yield delegate e => .yield delegate (namedIn n e)
  | .await e => .await (e.named n)
  | .this => n.object
  | .super => .super
  | .newTarget => .newTarget
  | .importMeta => n.facts
  | .importCall kind es => .importCall kind (namedAll n es)
  | .paren e => n.reduced (.paren (e.named n))
  | .cast form types e => .cast form types (e.named n)
  | .element tag types ps cs => .element tag types (namedProperties n ps) (namedAll n cs)
  | .elementText raw => .elementText raw
  | .spread e => .spread (e.named n)
  | .hole => .hole

/-- Expressions with others in the place of their names. -/
def namedAll (n : Naming) : List Expr → List Expr
  | [] => []
  | e :: es => e.named n :: namedAll n es

/-- An expression, if there is one, with others in the place of its names. -/
def namedIn (n : Naming) : Option Expr → Option Expr
  | none => none
  | some e => some (e.named n)

/-- The pattern with expressions in the place of its names. -/
def Pattern.named (n : Naming) : Pattern → Pattern
  | .name s => .name (n.declared s)
  | .target e => .target (e.named n)
  | .array ps => .array (namedPatterns n ps)
  | .object ps => .object (namedPatterns n ps)
  | .property key shorthand p => .property (key.named n) shorthand (p.named n)
  | .withDefault p e => .withDefault (p.named n) (e.named n)
  | .typed p types => .typed (p.named n) types
  | .parameter ds isProperty p => .parameter (namedAll n ds) isProperty (p.named n)
  | .rest p => .rest (p.named n)
  | .hole => .hole

/-- Patterns with expressions in the place of their names. -/
def namedPatterns (n : Naming) : List Pattern → List Pattern
  | [] => []
  | p :: ps => p.named n :: namedPatterns n ps

/-- Declared variables with expressions in the place of their names, without the constant ones. -/
def namedVariables (n : Naming) : List Pattern → List Pattern
  | [] => []
  | p :: ps => if n.isConstant p then namedVariables n ps else p.named n :: namedVariables n ps

/-- The name of a property with expressions in the place of the names that it uses. -/
def PropertyKey.named (n : Naming) : PropertyKey → PropertyKey
  | .computed e => .computed (e.named n)
  | key => key

/-- The property with expressions in the place of its names. -/
def Property.named (n : Naming) : Property → Property
  | .value key e => .value (key.named n) (e.named n)
  | .shorthand s => n.property s
  | .initialized s e => .initialized s (e.named n)
  | .method kind key f => .method kind (key.named n) (f.named n.apart false)
  | .spread e => .spread (e.named n)

/-- Properties with expressions in the place of their names. -/
def namedProperties (n : Naming) : List Property → List Property
  | [] => []
  | p :: ps => p.named n :: namedProperties n ps

/-- The function with expressions in the place of its names; `own` tells that its name is known only
to itself. -/
def Function.named (n : Naming) (own : Bool) : Function → Function
  | .mk name isAsync isGenerator types ps form body =>
    let outer := (if own then name.toList else []) ++ declaredAll ps
    let inner := n.enterItems outer (bodyNames body) body
    .mk (name.map (if own then inner.declared else n.declared)) isAsync isGenerator types
      (namedPatterns inner ps) form (namedItems inner body)

/-- The class with expressions in the place of its names; `own` tells that its name is known only to
itself. -/
def Class.named (n : Naming) (own : Bool) : Class → Class
  | .mk ds name types parent members =>
    let inner := if own then n.enter name.toList else n
    .mk (namedAll n ds) (name.map inner.declared) types (namedIn inner parent)
      (namedMembers inner members)

/-- The member of a class with expressions in the place of its names. -/
def Member.named (n : Naming) : Member → Member
  | .method cs ds isStatic kind key f =>
    .method (cs.filter n.keeps) (namedAll n ds) isStatic kind (key.named n)
      (f.named n.apart false)
  | .field cs ds isStatic isAccessor ambient key types e =>
    .field (cs.filter n.keeps) (namedAll n ds) isStatic isAccessor ambient (key.named n) types
      (namedIn n.apart e)
  | .block cs items =>
    .block (cs.filter n.keeps) (namedItems (n.apart.enterItems [] (bodyNames items) items) items)
  | .signature types => .signature types

/-- Members of a class with expressions in the place of their names. -/
def namedMembers (n : Naming) : List Member → List Member
  | [] => []
  | m :: ms => m.named n :: namedMembers n ms

/-- The statement with expressions in the place of its names. -/
def Stmt.named (n : Naming) : Stmt → Stmt
  | .block items => .block (namedItems (n.enterItems [] (lexicalAll items) items) items)
  | .expr e => .expr (e.named n)
  | .throw e => .throw (e.named n)
  | .declaration kind ps => .declaration kind (namedVariables n ps)
  | .function f => .function (f.named n.apart false)
  | .class c => .class (c.named n false)
  | .choice e s t => n.chosen (.choice (e.named n) (s.named n) (namedBranch n t))
  | .forLoop init test step s =>
    let inner := n.enter (loopNames init)
    .forLoop (namedBranch inner init) (namedIn inner test) (namedIn inner step) (s.named inner)
  | .forIn kind p e s =>
    let inner := n.enter (if kind.isSome && kind != some .var then p.declared else [])
    .forIn kind (p.named inner) (e.named inner) (s.named inner)
  | .forOf isAwait kind p e s =>
    let inner := n.enter (if kind.isSome && kind != some .var then p.declared else [])
    .forOf isAwait kind (p.named inner) (e.named inner) (s.named inner)
  | .whileLoop e s => .whileLoop (e.named n) (s.named n)
  | .withScope e s => .withScope (e.named n) (s.named n)
  | .doWhile s e => .doWhile (s.named n) (e.named n)
  | .return e => .return (namedIn n e)
  | .switch e cases =>
    .switch (e.named n) (namedItems (n.enter (caseNames cases)) cases)
  | .case e items => .case (namedIn n e) (namedItems n items)
  | .tryBlock items handler finalizer =>
    .tryBlock (namedItems (n.enterItems [] (lexicalAll items) items) items) (namedBranch n handler)
      (namedBranch n finalizer)
  | .handler p items =>
    let inner := n.enter p.declared
    .handler (p.named inner) (namedItems (inner.enterItems [] (lexicalAll items) items) items)
  | .labeled label s => .labeled label (s.named n)
  | .exportDeclaration s => .exportDeclaration (s.named n)
  | .exportDefault s => .exportDefault (s.named n)
  | .exportAssignment e => .exportAssignment (e.named n)
  | s => s

/-- A statement, if there is one, with expressions in the place of its names. -/
def namedBranch (n : Naming) : Option Stmt → Option Stmt
  | none => none
  | some s => some (s.named n)

/-- Statements with expressions in the place of their names. -/
def namedItems (n : Naming) : List Item → List Item
  | [] => []
  | .mk comments s :: items =>
    if n.declaresConstants s then namedItems n items
    else .mk (comments.filter n.keeps) (s.named n) :: namedItems n items

end

end StorySuite.Script
