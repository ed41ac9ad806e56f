import StorySuite.Script.Element
import StorySuite.Script.Enumeration
import StorySuite.Script.Naming
import StorySuite.Script.Shape

/-!
# Script — plain programs

A program written without types and elements.  Types go; an enumeration becomes an object that is
filled by a function, a namespace a function that fills an object, an element a call; a parameter
that is made a property is assigned where the object is made.  Where a program has types, a name
that is imported and used for no value is not imported.

There is no plain form of a tag of two names, of children that are spread, of a variable that a
namespace exports and may change, and of a program that names the library that makes its elements.
-/

namespace StorySuite.Script

/-- What is known where a piece of a program is made plain. -/
structure Surroundings where
  /-- The constants of the enumerations before it. -/
  known : Enumerations := []
  /-- It is a statement of the program itself. -/
  isTop : Bool := true
  /-- Names that statements before it have declared beside it. -/
  declared : List String := []
  /-- The name of the object that keeps what is exported, within a namespace. -/
  keeper : Option String := none
  /-- What makes elements. -/
  maker : ElementMaker := {}

/-- Making a piece plain; the state is the names that the program has. -/
abbrev Plainly := StateT (List String) Option

namespace Surroundings

/-- What is known within a statement. -/
def inside (g : Surroundings) : Surroundings :=
  { g with isTop := false, declared := [], keeper := none }

/-- What is known within a namespace whose object is known as `s`. -/
def within (g : Surroundings) (s : String) : Surroundings :=
  { g.inside with keeper := some s }

/-- What is known behind a statement. -/
def behind (g : Surroundings) (s : Stmt) : Surroundings :=
  let s := match s with
    | .exportDeclaration s => s
    | s => s
  match s with
  | .enum name ms =>
    { g with known := g.known.extend name ms, declared := name :: g.declared }
  | .namespace (name :: _) _ => { g with declared := name :: g.declared }
  | s => { g with declared := s.lexical ++ g.declared }

end Surroundings

/-! ### Putting statements together -/

/-- One statement out of those that are left of one. -/
def single : List Stmt → Stmt
  | [s] => s
  | ss => .block (ss.map Item.plain)

/-- An assignment of a property. -/
def setProperty (object : Expr) (property : String) (value : Expr) : Expr :=
  .assign none (.target (.member object property false)) value

/-- A text as an expression. -/
def quoted (s : String) : Expr :=
  .literal (.string { value := s })

/-- A function of one parameter that is called at once. -/
def calledWith (parameter : String) (body : List Item) (argument : Expr)
    (wrapped pure : Bool) : Expr :=
  let f := Expr.function (.mk none false false [] [.name parameter] .block body)
  .call (if wrapped then .paren f else f) [] [argument] false pure

/-- The declaration of a variable with a value. -/
def variableOf (kind : VariableKind) (name : String) (value : Expr) : Stmt :=
  .declaration kind [.withDefault (.name name) value]

/-! ### Enumerations -/

namespace Enumeration

/-- The statement that fills in a member: a text under its name, another value also the other way
round. -/
def fill (name member : String) (value : Expr) : Item :=
  let place := Expr.index (.name name) (quoted member) false
  let set := Expr.assign none (.target place) value
  .plain (.expr (if value.isText then set
    else .assign none (.target (.index (.name name) set false)) (quoted member)))

/-- The members of an enumeration so far, by their own names. -/
def naming (name : String) (before : List (String × Option Constant)) : Naming :=
  { values := before.map fun m => (m.1, .member (.name name) m.1 false), avoided := [] }

/-- The value of a member that is given none. -/
def implicit (name : String) (previous : Option Constant) (last : Option String) : Expr :=
  match previous.bind Constant.next?, last with
  | some c, _ => c.toExpr
  | none, some s =>
    .binary .add (.literal (.number (Decimal.Binary64.ofInt? 1)))
      (.index (.name name) (quoted s) false)
  | none, none => .literal (.number (Decimal.Binary64.ofInt? 0))

/-- A member whose value may do something. -/
def mayAct : Property → Bool
  | .value _ (.call ..) | .value _ (.new ..) => true
  | _ => false

/-- The statement that makes the enumeration out of the statements that fill it. -/
def statement (g : Surroundings) (exported : Bool) (name : String) (members : List Property)
    (fills : List Item) : Stmt :=
  let again := g.declared.contains name
  let own := (exported || !g.isTop) && !again
  let object := Expr.object []
  let argument := if own then object else .binary .or (.name name) object
  let call := calledWith name (fills ++ [.plain (.return (some (.name name)))]) argument false
    (!members.any mayAct)
  if again then .expr (.assign none (.target (.name name)) call)
  else
    let made := variableOf (if exported || !g.isTop then .let else .var) name call
    if exported then .exportDeclaration made else made

end Enumeration

/-! ### Namespaces -/

namespace Namespace

/-- A name for the object of the namespace `name` within it. -/
def freshName (name : String) : Plainly String := fun taken =>
  let base := "_" ++ String.ofList (name.toList.dropWhile (· == '_'))
  let candidates := base :: (List.range taken.length).map fun k => base ++ toString (k + 2)
  let s := (candidates.find? (!taken.contains ·)).getD base
  some (s, s :: taken)

/-- Names for the objects of namespaces within them. -/
def freshNames : List String → Plainly (List String)
  | [] => pure []
  | name :: names => do
    let s ← freshName name
    return s :: (← freshNames names)

/-- The object of a namespace: the one that there is, or a new one, which is kept in `parent` too.
-/
def object (name : String) (parent : Option String) : Expr :=
  let empty := Expr.object []
  let first := match parent with
    | none => empty
    | some p =>
      .binary .or (.member (.name p) name false) (.paren (setProperty (.name p) name empty))
  .binary .or (.name name) (.paren (.assign none (.target (.name name)) first))

/-- The statements that make a namespace, if it holds any: the declaration of its name and the call
that fills its object, known within as `inner`. -/
def statements (declared : Bool) (name inner : String) (parent : Option String) (body : List Item) :
    List Stmt :=
  let call := Stmt.expr (calledWith inner body (object name parent) true false)
  if declared then [call] else [.declaration .let [.name name], call]

/-- The namespaces of a path, each within the one before it; the last one holds `body`. -/
def nested (declared : Bool) (parent : Option String) (body : List Item) :
    List (String × String) → List Stmt
  | [] => []
  | [(name, inner)] => statements declared name inner parent body
  | (name, inner) :: more =>
    statements declared name inner parent ((nested false (some inner) body more).map Item.plain)

/-- A variable that is kept in the object of a namespace when it is declared; none if it is no name.
-/
def keptVariable? (inner : String) : Pattern → Option Pattern
  | .withDefault (.name s) e => some (.withDefault (.name s) (setProperty (.name inner) s e))
  | .name s => some (.name s)
  | _ => none

/-- Variables that are kept in the object of a namespace. -/
def keptVariables (inner : String) (ps : List Pattern) : List Stmt :=
  match ps.mapM (keptVariable? inner) with
  | some kept => [.declaration .const kept]
  | none =>
    let sets := (declaredAll ps).map fun s => setProperty (.name inner) s (.name s)
    [.declaration .const ps, .expr (match sets with
      | [e] => e
      | es => .sequence es)]

/-- The statements that make the namespaces of a path, if the last one holds anything; else the
names `taken` before are all that are taken. -/
def made (g : Surroundings) (path inners : List String) (body : List Item) (taken : List String) :
    Plainly (List Stmt) := do
  if body.isEmpty then
    set taken
    return []
  else return nested (g.declared.contains (path.headD "")) g.keeper body (path.zip inners)

end Namespace

namespace Surroundings

/-- The statements that keep the declared names in the object of the namespace. -/
def kept (g : Surroundings) (names : List String) : List Stmt :=
  match g.keeper with
  | none => []
  | some inner => names.map fun s => .expr (setProperty (.name inner) s (.name s))

end Surroundings

namespace AliasTarget

/-- The declaration of a name as an alias. -/
def declaration (target : AliasTarget) (name : String) : Stmt :=
  match target with
  | .external t =>
    variableOf .const name (.call (.name "require") [] [.literal (.string t)] false false)
  | .path root rest =>
    variableOf .var name (rest.foldl (fun e s => .member e s false) (.name root))

end AliasTarget

/-! ### Classes -/

/-- The names of the parameters that are made properties. -/
def propertyParameters : List Pattern → List String
  | [] => []
  | .parameter _ true p :: ps => p.declared ++ propertyParameters ps
  | _ :: ps => propertyParameters ps

/-- A statement calls the constructor of the class above. -/
def callsSuper : Item → Bool
  | .mk _ (.expr (.call .super ..)) => true
  | _ => false

/-- The body of a constructor that also sets properties: behind the call of the constructor above,
or at once behind the directives. -/
def withProperties (names : List String) (body : List Item) : List Item :=
  let sets := names.map fun s => Item.plain (.expr (setProperty .this s (.name s)))
  let isDirective (i : Item) : Bool := match i.stmt with
    | .directive _ => true
    | _ => false
  if names.isEmpty then body
  else if body.any callsSuper then
    let front := body.takeWhile (!callsSuper ·)
    front ++ (body.drop front.length).take 1 ++ sets ++ body.drop (front.length + 1)
  else
    let front := body.takeWhile isDirective
    front ++ sets ++ body.drop front.length

/-! ### Everything -/

namespace Expr

/-- The expression is given a type. -/
def isCast : Expr → Bool
  | .cast .. => true
  | _ => false

end Expr

mutual

/-- The plain form of an expression. -/
def Expr.plain (g : Surroundings) : Expr → Plainly Expr
  | .name s => pure (.name s)
  | .literal l => pure (.literal l)
  | .template chunks es => do return .template chunks (← plainAll g es)
  | .tagged tag _ chunks es => do return .tagged (← tag.plain g) [] chunks (← plainAll g es)
  | .array es => do return .array (← plainAll g es)
  | .object ps => do return .object (← plainProperties g ps)
  | .function f => do return .function (← f.plain g)
  | .arrow f => do return .arrow (← f.plain g)
  | .class c => do return .class (← c.plain g)
  | .unary op e => do return .unary op (← e.plain g)
  | .update increment before e => do return .update increment before (← e.plain g)
  | .binary op a b => do return .binary op (← a.plain g) (← b.plain g)
  | .assign op p e => do return .assign op (← p.plain g) (← e.plain g)
  | .conditional a b c => do return .conditional (← a.plain g) (← b.plain g) (← c.plain g)
  | .call f _ es optional pure => do return .call (← f.plain g) [] (← plainAll g es) optional pure
  | .new f _ es pure => do return .new (← f.plain g) [] (← plainAll g es) pure
  | .member e property optional => do return .member (← e.plain g) property optional
  | .index e key optional => do return .index (← e.plain g) (← key.plain g) optional
  | .privateMember e property optional => do return .privateMember (← e.plain g) property optional
  | .privateIn property e => do return .privateIn property (← e.plain g)
  | .sequence es => do return .sequence (← plainAll g es)
  | .yield delegate e => do return .yield delegate (← plainIn g e)
  | .await e => do return .await (← e.plain g)
  | .this => pure .this
  | .super => pure .super
  | .newTarget => pure .newTarget
  | .importMeta => pure .importMeta
  | .importCall kind es => do return .importCall kind (← plainAll g es)
  | .paren e => do
    let x ← e.plain g
    return if e.isCast && x.isFunction then x else .paren x
  | .cast _ _ e => e.plain g
  | .element tag _ ps cs => do
    let tag ← match tag with
      | none => pure (ElementMaker.path g.maker.fragment)
      | some name => (name.toExpr? : Option Expr)
    let ps ← plainAttributes g ps
    let cs ← plainChildren g cs
    return elementCall g.maker tag (attributesValue ps) cs
  | .elementText raw => pure (.elementText raw)
  | .spread e => do return .spread (← e.plain g)
  | .hole => pure .hole

/-- The plain forms of expressions. -/
def plainAll (g : Surroundings) : List Expr → Plainly (List Expr)
  | [] => pure []
  | e :: es => do return (← e.plain g) :: (← plainAll g es)

/-- The plain form of an expression, if there is one. -/
def plainIn (g : Surroundings) : Option Expr → Plainly (Option Expr)
  | none => pure none
  | some e => do return some (← e.plain g)

/-- The children of an element as values. -/
def plainChildren (g : Surroundings) : List Expr → Plainly (List Expr)
  | [] => pure []
  | .hole :: es => plainChildren g es
  | .spread _ :: _ => failure
  | .elementText raw :: es => do
    let rest ← plainChildren g es
    return ((Markup.childText? raw).map fun t => Expr.literal (.string t)).toList ++ rest
  | e :: es => do return (← e.plain g) :: (← plainChildren g es)

/-- The attributes of an element as properties. -/
def plainAttributes (g : Surroundings) : List Property → Plainly (List Property)
  | [] => pure []
  | .value (.name s) (.elementText raw) :: ps => do
    let text := Expr.literal (.string (Markup.textValue raw.toList))
    return .value (Property.attributeKey s) text :: (← plainAttributes g ps)
  | .value (.name s) e :: ps => do
    return .value (Property.attributeKey s) (← e.plain g) :: (← plainAttributes g ps)
  | .shorthand s :: ps => do
    return .value (Property.attributeKey s) (.literal (.bool true)) :: (← plainAttributes g ps)
  | .spread e :: ps => do return Property.spreadInto (← e.plain g) ++ (← plainAttributes g ps)
  | _ :: ps => plainAttributes g ps

/-- The plain form of a pattern. -/
def Pattern.plain (g : Surroundings) : Pattern → Plainly Pattern
  | .name s => pure (.name s)
  | .target e => do return .target (← e.plain g)
  | .array ps => do return .array (← plainPatterns g ps)
  | .object ps => do return .object (← plainPatterns g ps)
  | .property key shorthand p => do return .property (← key.plain g) shorthand (← p.plain g)
  | .withDefault p e => do return .withDefault (← p.plain g) (← e.plain g)
  | .typed p _ => p.plain g
  | .parameter ds _ p => do
    let ds ← plainAll g ds
    let p ← p.plain g
    return if ds.isEmpty then p else .parameter ds false p
  | .rest p => do return .rest (← p.plain g)
  | .hole => pure .hole

/-- The plain forms of patterns. -/
def plainPatterns (g : Surroundings) : List Pattern → Plainly (List Pattern)
  | [] => pure []
  | p :: ps => do return (← p.plain g) :: (← plainPatterns g ps)

/-- The plain form of the name of a property. -/
def PropertyKey.plain (g : Surroundings) : PropertyKey → Plainly PropertyKey
  | .computed e => do return .computed (← e.plain g)
  | key => pure key

/-- The plain form of a property. -/
def Property.plain (g : Surroundings) : Property → Plainly Property
  | .value key e => do return .value (← key.plain g) (← e.plain g)
  | .shorthand s => pure (.shorthand s)
  | .initialized s e => do return .initialized s (← e.plain g)
  | .method kind key f => do return .method kind (← key.plain g) (← f.plain g)
  | .spread e => do return .spread (← e.plain g)

/-- The plain forms of properties. -/
def plainProperties (g : Surroundings) : List Property → Plainly (List Property)
  | [] => pure []
  | p :: ps => do return (← p.plain g) :: (← plainProperties g ps)

/-- The plain form of a function. -/
def Function.plain (g : Surroundings) : Function → Plainly Function
  | .mk name isAsync isGenerator _ ps form body => do
    let plainPs ← plainPatterns g ps
    let body ← plainItems g.inside body
    return .mk name isAsync isGenerator [] plainPs form
      (withProperties (propertyParameters ps) body)

/-- The plain form of a class. -/
def Class.plain (g : Surroundings) : Class → Plainly Class
  | .mk ds name _ parent members => do
    return .mk (← plainAll g ds) name [] (← plainIn g parent) (← plainMembers g members)

/-- The plain form of a member of a class, if anything is left of it. -/
def Member.plain (g : Surroundings) : Member → Plainly (List Member)
  | .method cs ds isStatic kind key f => do
    if f.isMissing then return []
    else return [.method cs (← plainAll g ds) isStatic kind (← key.plain g) (← f.plain g)]
  | .field cs ds isStatic isAccessor ambient key _ e => do
    if ambient then return []
    else
      return [.field cs (← plainAll g ds) isStatic isAccessor false (← key.plain g) []
        (← plainIn g e)]
  | .block cs items => do return [.block cs (← plainItems g.inside items)]
  | .signature _ => pure []

/-- The plain forms of members of a class. -/
def plainMembers (g : Surroundings) : List Member → Plainly (List Member)
  | [] => pure []
  | m :: ms => do return (← m.plain g) ++ (← plainMembers g ms)

/-- The statements that fill the enumeration `name`; `before` are its members so far, and `previous`
is the value of the last one. -/
def plainFills (g : Surroundings) (name : String) (before : List (String × Option Constant))
    (previous : Option Constant) (last : Option String) : List Property → Plainly (List Item)
  | [] => pure []
  | .value key e :: ms => do
    let member := (Property.shorthand (match key with
      | .name s => s
      | _ => "")).memberName
    let known := e.constant? ((name, before) :: g.known) name
    let value ← match known with
      | some c => pure c.toExpr
      | none => do
        let x ← e.plain g
        pure (x.named (Enumeration.naming name ((member, none) :: before)))
    let rest ← plainFills g name ((member, known) :: before) known (some member) ms
    return Enumeration.fill name member value :: rest
  | m :: ms => do
    let member := m.memberName
    let value := Enumeration.implicit name previous last
    let known := previous.bind Constant.next?
    let rest ← plainFills g name ((member, known) :: before) known (some member) ms
    return Enumeration.fill name member value :: rest

/-- What is left of a statement. -/
def Stmt.plain (g : Surroundings) : Stmt → Plainly (List Stmt)
  | .block items => do return [.block (← plainItems g.inside items)]
  | .expr e => do return [.expr (← e.plain g)]
  | .throw e => do return [.throw (← e.plain g)]
  | .declaration kind ps => do return [.declaration kind (← plainPatterns g ps)]
  | .function f => do
    if f.isMissing then return [] else return [.function (← f.plain g)]
  | .class c => do return [.class (← c.plain g)]
  | .choice e s t => do
    return [.choice (← e.plain g) (single (← s.plain g.inside)) (← plainBranch g t)]
  | .forLoop init test step s => do
    return [.forLoop (← plainBranch g init) (← plainIn g test) (← plainIn g step)
      (single (← s.plain g.inside))]
  | .forIn kind p e s => do
    return [.forIn kind (← p.plain g) (← e.plain g) (single (← s.plain g.inside))]
  | .forOf isAwait kind p e s => do
    return [.forOf isAwait kind (← p.plain g) (← e.plain g) (single (← s.plain g.inside))]
  | .whileLoop e s => do return [.whileLoop (← e.plain g) (single (← s.plain g.inside))]
  | .withScope e s => do return [.withScope (← e.plain g) (single (← s.plain g.inside))]
  | .doWhile s e => do return [.doWhile (single (← s.plain g.inside)) (← e.plain g)]
  | .return e => do return [.return (← plainIn g e)]
  | .switch e cases => do return [.switch (← e.plain g) (← plainItems g.inside cases)]
  | .case e items => do return [.case (← plainIn g e) (← plainItems g.inside items)]
  | .tryBlock items handler finalizer => do
    return [.tryBlock (← plainItems g.inside items) (← plainBranch g handler)
      (← plainBranch g finalizer)]
  | .handler p items => do return [.handler (← p.plain g) (← plainItems g.inside items)]
  | .labeled label s => do return [.labeled label (single (← s.plain g.inside))]
  | .exportDeclaration (.declaration kind ps) => do
    let ps ← plainPatterns g ps
    match g.keeper with
    | none => return [.exportDeclaration (.declaration kind ps)]
    | some inner =>
      if kind == .const then return Namespace.keptVariables inner ps else failure
  | .exportDeclaration (.enum name ms) => do
    let first := (Decimal.Binary64.ofInt? (-1)).map Constant.number
    let fills ← plainFills g name (g.known.members name) first none ms
    let exported := g.keeper.isNone
    return Enumeration.statement g exported name ms fills :: g.kept [name]
  | .exportDeclaration (.namespace path body) => do
    let taken ← get
    let inners ← Namespace.freshNames path
    let body ← plainItems (g.within (inners.getLast?.getD "")) body
    let ss ← Namespace.made g path inners body taken
    match ss with
    | .declaration kind ps :: ss =>
      return (if g.keeper.isSome then .declaration kind ps
        else .exportDeclaration (.declaration kind ps)) :: ss
    | ss => return ss
  | .exportDeclaration (.importAlias false name target) =>
    pure [.exportDeclaration (target.declaration name)]
  | .exportDeclaration s => do
    let names := s.lexical
    let ss ← s.plain g
    return if g.keeper.isSome then ss ++ if ss.isEmpty then [] else g.kept names
      else ss.map .exportDeclaration
  | .exportDefault s => do return (← s.plain g).map .exportDefault
  | .ambient _ | .typeName .. | .exportAsNamespace _ => pure []
  | .enum name ms => do
    let first := (Decimal.Binary64.ofInt? (-1)).map Constant.number
    let fills ← plainFills g name (g.known.members name) first none ms
    return [Enumeration.statement g false name ms fills]
  | .namespace path body => do
    let taken ← get
    let inners ← Namespace.freshNames path
    let body ← plainItems (g.within (inners.getLast?.getD "")) body
    Namespace.made { g with keeper := none } path inners body taken
  | .exportAssignment e => do return [.expr (setProperty (.name "module") "exports" (← e.plain g))]
  | s => pure [s]

/-- What is left of a statement, if there is one. -/
def plainBranch (g : Surroundings) : Option Stmt → Plainly (Option Stmt)
  | none => pure none
  | some s => do
    let ss ← s.plain g.inside
    return if ss.isEmpty then none else some (single ss)

/-- What is left of statements. -/
def plainItems (g : Surroundings) : List Item → Plainly (List Item)
  | [] => pure []
  | .mk comments s :: items => do
    let ss ← s.plain g
    let rest ← plainItems (g.behind s) items
    return (match ss with
      | [] => []
      | s :: ss => .mk comments s :: ss.map Item.plain) ++ rest

end

end StorySuite.Script
