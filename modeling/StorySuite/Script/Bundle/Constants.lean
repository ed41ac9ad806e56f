import StorySuite.Decimal.Shortest
import StorySuite.Script.Naming

/-!
# Script — constants

A variable that is given a value once and is never given another can do without its declaration:
where its value is short, or asked for no more than once, the value stands in its place.
Expressions of known values are then worked out.
-/

namespace StorySuite.Script

open Decimal

/-! ### Known values -/

namespace Expr

/-- The value is known and is no object. -/
def isConstant : Expr → Bool
  | .literal (.regex ..) => false
  | .literal _ => true
  | .unary .minus (.literal (.number _)) | .unary .void (.literal (.number _)) => true
  | _ => false

/-- The whole number that the value is, if it is known to be one. -/
def whole? : Expr → Option Int
  | .literal (.number (some x)) => x.toInt?
  | .unary .minus (.literal (.number (some x))) => if x.isZero then none else x.neg.toInt?
  | _ => none

/-- Whether the value counts as true, where it is known. -/
def truth? : Expr → Option Bool
  | .literal .null | .unary .void (.literal (.number _)) => some false
  | .literal (.bool b) => some b
  | .literal (.number x) | .unary .minus (.literal (.number x)) =>
    some (x.elim true fun x => !x.isZero)
  | .literal (.string t) => some (t.value != "")
  | _ => none

/-- There is no value; none where that is not known. -/
def isNothing? (e : Expr) : Option Bool :=
  match e with
  | .literal .null | .unary .void (.literal (.number _)) => some true
  | _ => if e.isConstant then some false else none

/-- The text that the value is in a text, where it is known to be one or a whole number. -/
def joined? : Expr → Option StringValue
  | .literal (.string t) => some t
  | e => e.whole?.map fun k => { value := toString k }

/-- A whole number written out; none where it might have been rounded. -/
def ofWhole? (k : Int) : Option Expr :=
  if k.natAbs ≤ Nat.pow 2 53 then
    (Binary64.ofInt? k.natAbs).map fun x =>
      let e := Expr.literal (.number (some x))
      if k < 0 then .unary .minus e else e
  else none

/-- Whether two values are the same, where both are texts, both whole numbers, or both truth values.
-/
def same? : Expr → Expr → Option Bool
  | .literal (.string s), .literal (.string t) => some (s == t)
  | .literal (.bool a), .literal (.bool b) => some (a == b)
  | a, b => a.whole?.bind fun x => b.whole?.map (x == ·)

/-- The sum of two known values. -/
def sum? (a b : Expr) : Option Expr :=
  match a, b with
  | .literal (.string _), _ | _, .literal (.string _) =>
    a.joined?.bind fun s => b.joined?.map fun t =>
      .literal (.string { value := s.value ++ t.value, lone := s.lone || t.lone })
  | _, _ => a.whole?.bind fun x => b.whole?.bind fun y => ofWhole? (x + y)

/-- The value of an operation on known values. -/
def outcome? (op : BinaryOp) (a b : Expr) : Option Expr :=
  match op with
  | .and => a.truth?.map fun t => if t then b else a
  | .or => a.truth?.map fun t => if t then a else b
  | .nullish => a.isNothing?.map fun t => if t then b else a
  | .eqStrict => (a.same? b).map fun t => .literal (.bool t)
  | .neStrict => (a.same? b).map fun t => .literal (.bool !t)
  | .add => a.sum? b
  | .sub => a.whole?.bind fun x => b.whole?.bind fun y => ofWhole? (x - y)
  | .mul => a.whole?.bind fun x => b.whole?.bind fun y =>
      if x * y = 0 then none else ofWhole? (x * y)
  | _ => none

/-- The expression worked out, where what it works on is known. -/
def workedOut (e : Expr) : Expr :=
  match e with
  | .paren inner => if inner.isConstant then inner else e
  | .unary .not a => (a.truth?.map fun t => Expr.literal (.bool !t)).getD e
  | .binary op a b => (outcome? op a b).getD e
  | .conditional a b c => (a.truth?.map fun t => if t then b else c).getD e
  | .member .importMeta s false => (ownProperty? s).getD e
  | _ => e
where
  /-- What a module knows of itself, where it is known to the script. -/
  ownProperty? : String → Option Expr
    | "url" =>
      let library :=
        Expr.call (.name "require") [] [.literal (.string { value := "url" })] false false
      some (.member (.call (.member library "pathToFileURL" false) []
        [.name "__filename"] false false) "href" false)
    | "filename" => some (.name "__filename")
    | "dirname" => some (.name "__dirname")
    | _ => none

/-- The value takes no more room than a name. -/
def isShort (e : Expr) : Bool :=
  match e with
  | .literal .null | .literal (.bool _) | .unary .void _ => true
  | .literal (.string t) => t.value.utf8ByteSize ≤ 3
  | _ => e.whole?.any fun k => -99 ≤ k && k ≤ 999

end Expr

/-! ### Variables of known values -/

namespace Stmt

/-- The statement that is chosen, where that is known and the other one declares nothing. -/
def workedOut (s : Stmt) : Stmt :=
  match s with
  | .choice e yes no =>
    match e.truth? with
    | some true => if (hoistedIn no).isEmpty then yes else s
    | some false => if yes.hoisted.isEmpty then no.getD .empty else s
    | none => s
  | s => s

/-- The variables that a statement declares for the block that it stands in, with their values. -/
def settled : Stmt → List (String × Expr)
  | .declaration kind ps | .exportDeclaration (.declaration kind ps) =>
    if kind == .const || kind == .let then
      ps.filterMap fun
        | .withDefault (.name s) e => some (s, e)
        | _ => none
    else []
  | _ => []

/-- The variables that a statement exports. -/
def exported : Stmt → List String
  | .exportDeclaration s => s.hoisted ++ s.lexical
  | .exportNames _ bindings none => bindings.map fun b => b.name.text
  | _ => []

end Stmt

/-- The constants among variables with values, where names are used by `uses`; `values` tells what
names stand for around them. -/
def constantsAmong (uses : List Use) :
    List (String × Expr) → List (String × Expr) → List (String × Expr)
  | _, [] => []
  | values, (s, e) :: rest =>
    let e := e.named { values, avoided := [], reduced := Expr.workedOut }
    let own := uses.filter (·.name == s)
    if e.isConstant && own.all (!·.assigns) && (own.length ≤ 1 || e.isShort) then
      (s, e) :: constantsAmong uses ((s, e) :: values) rest
    else constantsAmong uses values rest

namespace Program

/-- The program with the values of its constants in their place. -/
def inlined (p : Program) : Program :=
  let naming : Naming :=
    { values := []
      avoided := []
      constants := fun values items =>
        constantsAmong (usesOfItems items) values (items.flatMap fun i => i.stmt.settled)
      lasting := p.items.flatMap fun i => i.stmt.exported
      reduced := Expr.workedOut
      chosen := Stmt.workedOut }
  { p with items := namedItems (naming.enterItems [] (bodyNames p.items) p.items) p.items }

end Program

end StorySuite.Script
