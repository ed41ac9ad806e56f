import StorySuite.Script.Syntax

/-!
# Script — what a program mentions

The variables that a program uses and the calls that it makes, in the order in which they stand, a
call before what it is made of.  A variable is mentioned wherever its name stands for it, also in a
type and also where the name means another variable of the same name.
-/

namespace StorySuite.Script

/-- Something that a program mentions. -/
inductive Mention where
  | variable (name : String)
  | call (callee : Expr) (arguments : List Expr)

namespace ElementName

/-- A name that begins with a small letter, or has a hyphen, is not a variable's. -/
def isIntrinsic (s : String) : Bool :=
  s.toList.contains '-' || s.toList.head?.any fun c => 'a' ≤ c && c ≤ 'z'

/-- The variable that an element's name stands for. -/
def variableName? : ElementName → Option String
  | .plain s => if isIntrinsic s || s == "this" then none else some s
  | .namespaced .. => none
  | .member root _ => if root == "this" then none else some root

end ElementName

/-- The variables of the given names. -/
def variableMentions (names : List String) : List Mention :=
  names.map .variable

mutual

/-- What an expression mentions. -/
def Expr.mentions : Expr → List Mention
  | .name s => [.variable s]
  | .literal _ | .this | .super | .newTarget | .importMeta | .elementText _ | .hole => []
  | .template _ es | .array es | .sequence es | .importCall _ es => mentionsAll es
  | .tagged tag types _ es => tag.mentions ++ variableMentions types ++ mentionsAll es
  | .object ps => mentionsOfProperties ps
  | .function f | .arrow f => f.mentions
  | .class c => c.mentions
  | .unary _ e | .update _ _ e | .await e | .paren e | .spread e | .privateIn _ e
  | .member e _ _ | .privateMember e _ _ => e.mentions
  | .cast _ types e => e.mentions ++ variableMentions types
  | .binary _ a b | .index a b _ => a.mentions ++ b.mentions
  | .assign _ p e => p.mentions ++ e.mentions
  | .conditional a b c => a.mentions ++ b.mentions ++ c.mentions
  | .call f types es _ _ => .call f es :: (f.mentions ++ variableMentions types ++ mentionsAll es)
  | .new f types es _ => f.mentions ++ variableMentions types ++ mentionsAll es
  | .yield _ e => mentionsIn e
  | .element name types ps cs =>
    variableMentions (name.bind ElementName.variableName?).toList ++ variableMentions types ++
      mentionsOfProperties ps ++ mentionsAll cs

/-- What expressions mention. -/
def mentionsAll : List Expr → List Mention
  | [] => []
  | e :: es => e.mentions ++ mentionsAll es

/-- What an expression mentions, if there is one. -/
def mentionsIn : Option Expr → List Mention
  | none => []
  | some e => e.mentions

/-- What a pattern mentions; the variables that it declares are none of it. -/
def Pattern.mentions : Pattern → List Mention
  | .name _ | .hole => []
  | .target e => e.mentions
  | .array ps | .object ps => mentionsOfPatterns ps
  | .property key _ p => key.mentions ++ p.mentions
  | .withDefault p e => p.mentions ++ e.mentions
  | .typed p types => p.mentions ++ variableMentions types
  | .parameter ds _ p => mentionsAll ds ++ p.mentions
  | .rest p => p.mentions

/-- What patterns mention. -/
def mentionsOfPatterns : List Pattern → List Mention
  | [] => []
  | p :: ps => p.mentions ++ mentionsOfPatterns ps

/-- What the name of a property mentions. -/
def PropertyKey.mentions : PropertyKey → List Mention
  | .computed e => e.mentions
  | .name _ | .string _ | .number _ | .bigint _ | .privateName _ => []

/-- What a property mentions. -/
def Property.mentions : Property → List Mention
  | .value key e => key.mentions ++ e.mentions
  | .shorthand s => [.variable s]
  | .initialized s e => .variable s :: e.mentions
  | .method _ key f => key.mentions ++ f.mentions
  | .spread e => e.mentions

/-- What properties mention. -/
def mentionsOfProperties : List Property → List Mention
  | [] => []
  | p :: ps => p.mentions ++ mentionsOfProperties ps

/-- What a function mentions. -/
def Function.mentions : Function → List Mention
  | .mk _ _ _ types ps _ body =>
    variableMentions types ++ mentionsOfPatterns ps ++ mentionsOfItems body

/-- What a class mentions. -/
def Class.mentions : Class → List Mention
  | .mk ds _ types parent members =>
    mentionsAll ds ++ mentionsIn parent ++ variableMentions types ++ mentionsOfMembers members

/-- What a member of a class mentions. -/
def Member.mentions : Member → List Mention
  | .method _ ds _ _ key f => mentionsAll ds ++ key.mentions ++ f.mentions
  | .field _ ds _ _ _ key types e =>
    mentionsAll ds ++ key.mentions ++ variableMentions types ++ mentionsIn e
  | .block _ items => mentionsOfItems items
  | .signature types => variableMentions types

/-- What members of a class mention. -/
def mentionsOfMembers : List Member → List Mention
  | [] => []
  | m :: ms => m.mentions ++ mentionsOfMembers ms

/-- What a statement mentions. -/
def Stmt.mentions : Stmt → List Mention
  | .empty | .ending | .directive _ | .break _ | .continue _ | .debugger => []
  | .import .. | .exportAll .. | .exportAsNamespace _ => []
  | .block items | .namespace _ items => mentionsOfItems items
  | .expr e | .throw e | .exportAssignment e => e.mentions
  | .declaration _ ps => mentionsOfPatterns ps
  | .function f => f.mentions
  | .class c => c.mentions
  | .choice e s t => e.mentions ++ s.mentions ++ mentionsOfBranch t
  | .forLoop init test step s =>
    mentionsOfBranch init ++ mentionsIn test ++ mentionsIn step ++ s.mentions
  | .forIn _ p e s | .forOf _ _ p e s => p.mentions ++ e.mentions ++ s.mentions
  | .whileLoop e s | .withScope e s => e.mentions ++ s.mentions
  | .doWhile s e => s.mentions ++ e.mentions
  | .return e => mentionsIn e
  | .switch e cases => e.mentions ++ mentionsOfItems cases
  | .case e items => mentionsIn e ++ mentionsOfItems items
  | .tryBlock items handler finalizer =>
    mentionsOfItems items ++ mentionsOfBranch handler ++ mentionsOfBranch finalizer
  | .handler p items => p.mentions ++ mentionsOfItems items
  | .labeled _ s | .exportDeclaration s | .exportDefault s | .ambient s => s.mentions
  | .exportNames _ bindings source =>
    if source.isSome then [] else bindings.map fun b => .variable b.name.text
  | .typeName _ types => variableMentions types
  | .enum _ ms => mentionsOfEnum ms
  | .importAlias _ _ target =>
    match target with
    | .external _ => []
    | .path root _ => [.variable root]

/-- What the members of an enumeration mention; their own names are none of it. -/
def mentionsOfEnum : List Property → List Mention
  | [] => []
  | .shorthand _ :: ms => mentionsOfEnum ms
  | m :: ms => m.mentions ++ mentionsOfEnum ms

/-- What a statement mentions, if there is one. -/
def mentionsOfBranch : Option Stmt → List Mention
  | none => []
  | some s => s.mentions

/-- What statements mention. -/
def mentionsOfItems : List Item → List Mention
  | [] => []
  | .mk _ s :: items => s.mentions ++ mentionsOfItems items

end

namespace Program

/-- What a program mentions. -/
def mentions (p : Program) : List Mention :=
  mentionsOfItems p.items

end Program

end StorySuite.Script
