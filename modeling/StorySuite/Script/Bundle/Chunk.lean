import StorySuite.Path.Basic
import StorySuite.Script.Bundle.Constants
import StorySuite.Script.Bundle.Effects
import StorySuite.Script.Bundle.Links
import StorySuite.Script.Bundle.Prelude
import StorySuite.Script.Naming
import StorySuite.Script.Printer

/-!
# Script — bundles

A module as a script that requires what it asks for and assigns what it exports.  An imported
variable becomes a property of the required module, so that it is looked up when it is used; an
export that may change, or is passed on, is looked up when it is asked for.  Declarations that are
not used are left out.  All names of the script differ from each other, also those further in.
-/

namespace StorySuite.Script

/-! ### Names -/

/-- A variable's name that looks like `s`. -/
def variableLike (s : String) : String :=
  let part (c : Char) : Char := if isNamePart c then c else '_'
  match s.toList with
  | [] => ""
  | c :: cs =>
    String.ofList ((if isNameStart c then [c] else ['_', part c]) ++ cs.map part)

/-- Names that no variable of a bundle may have. -/
def bundleWords : List String :=
  ["module", "require", "__filename", "__dirname", "exports", "Object", "Promise"] ++ reservedWords

/-- `s` can be written behind a point. -/
def isPropertyName (s : String) : Bool :=
  match s.toList with
  | [] => false
  | c :: cs => isNameStart c && cs.all isNamePart

/-- The property of an object. -/
def propertyOf (e : Expr) (s : String) : Expr :=
  if isPropertyName s then .member e s false else .index e (.literal (.string { value := s })) false

/-- The text of an expression on its own. -/
def Expr.alone (e : Expr) : String :=
  e.text (Place.plain Level.comma 0)

namespace Foreign

/-- What stands for something of the module that is required as a variable. -/
def expr (f : Foreign) (space : String) : Expr :=
  match f.name with
  | none => .name space
  | some s => propertyOf (.name space) s

end Foreign

/-- The names of a bundle. -/
structure BundleNames where
  /-- The variables that required modules are kept in. -/
  spaces : List (String × String)
  naming : Naming

namespace BundleNames

/-- The variable that a required module is kept in. -/
def space (n : BundleNames) (source : String) : String :=
  (n.spaces.lookup source).getD source

end BundleNames

namespace Comment

/-- The comment says what something is for, or whose it is. -/
def isLasting (c : Comment) : Bool :=
  c.isLegal || ("/**".toList.isPrefixOf c.text.toList && c.text != "/**/")

end Comment

namespace Links

/-- The imported variables. -/
def importedNames (l : Links) : List String :=
  l.imports.map (·.1)

/-- The variables that are exported. -/
def exportedNames (l : Links) : List String :=
  l.exports.filterMap fun e => match e.2 with
    | .own x => some x
    | .foreign _ => none

/-- The names that the module declares itself. -/
def declared (l : Links) : List String :=
  bodyNames l.body

/-- The module without the declarations that are not used. -/
def shaken (l : Links) : Links :=
  { l with body := kept (l.declared ++ l.importedNames) l.exportedNames l.body }

/-- What the module uses of others. -/
def usedForeign (l : Links) : List Foreign :=
  let used := freeOfItems l.body ++ l.exportedNames
  (l.imports.filter fun i => used.contains i.1).map (·.2) ++
    l.exports.filterMap fun e => match e.2 with
      | .own _ => none
      | .foreign f => some f

/-- The required modules that have to look like ones that export by name. -/
def wholes (l : Links) : List String :=
  (l.usedForeign.filter Foreign.needsWhole).map Foreign.source

/-- The required modules of which something is used. -/
def usedSources (l : Links) : List String :=
  l.requests.filter (l.usedForeign.map Foreign.source).contains

/-- The names of the bundle. -/
def names (l : Links) : BundleNames :=
  let used := freeOfItems l.body
  let globals := without (l.declared ++ l.importedNames) used
  let sources := (l.usedSources ++ l.stars).eraseDups
  let spaces := Naming.freshAll (bundleWords ++ globals) [] (sources.map variableLike)
  let spaceNames := spaces.map (·.2)
  let taken := bundleWords ++ globals ++ spaceNames ++
    if l.wholes.isEmpty then [] else preludeNames
  let own := Naming.freshAll taken [] l.declared.eraseDups
  let spaces := sources.zip spaceNames
  let space (f : Foreign) := (spaces.lookup f.source).getD f.source
  { spaces
    naming :=
      { values := own.map (fun p => (p.1, Expr.name p.2)) ++
          l.imports.map fun i => (i.1, i.2.expr (space i.2))
        avoided := taken ++ own.map (·.2)
        detached := true
        keeps := Comment.isLasting
        object := .unary .void (.literal (.number (some (.zero false))))
        facts := .object [] } }

/-! ### Text -/

/-- The lines that require modules. -/
def requireLines (l : Links) (n : BundleNames) : List String :=
  l.requests.flatMap fun source =>
    let call := "require(" ++ StringValue.text { value := source } ++ ");"
    if l.usedSources.contains source then
      let space := n.space source
      ("let " ++ space ++ " = " ++ call) ::
        if l.wholes.contains source then [space ++ " = __toESM(" ++ space ++ ");"] else []
    else [call]

/-- The body of the bundle. -/
def bodyItems (l : Links) (n : BundleNames) : List Item :=
  (namedItems n.naming l.body).map fun i => .mk i.comments i.stmt.asVariable

/-- An export that is looked up when it is asked for. -/
def lookedUp (name value : String) : String :=
  "Object.defineProperty(exports, '" ++ name ++ "', \x7b\n  enumerable: true,\n" ++
    "  get: function () \x7b\n    return " ++ value ++ ";\n  \x7d\n\x7d);"

/-- The exports that are the same variable as one before them, behind it. -/
def gathered : Nat → List (String × Origin) → List (String × Origin)
  | 0, es => es
  | _, [] => []
  | fuel + 1, e :: es =>
    e :: es.filter (·.2 == e.2) ++ gathered fuel (es.filter (·.2 != e.2))

/-- The lines that export. -/
def exportLines (l : Links) (n : BundleNames) : List String :=
  let changing := assignedIn l.body
  (gathered l.exports.length l.exports).map fun e =>
    match e.2 with
    | .own x =>
      let value := (n.naming.value x).alone
      let isWhole := (l.imports.lookup x).any (·.name.isNone)
      if isWhole || changing.contains x then lookedUp e.1 value
      else (propertyOf (.name "exports") e.1).alone ++ " = " ++ value ++ ";"
    | .foreign f => lookedUp e.1 (f.expr (n.space f.source)).alone

/-- The text that exports all that another module exports. -/
def starText (source space : String) : String :=
  "\nvar " ++ space ++ " = require(" ++ StringValue.text { value := source } ++ ");\n" ++
    "Object.keys(" ++ space ++ ").forEach(function (k) \x7b\n" ++
    "  if (k !== 'default' && !Object.prototype.hasOwnProperty.call(exports, k)) " ++
    "Object.defineProperty(exports, k, \x7b\n    enumerable: true,\n" ++
    "    get: function () \x7b return " ++ space ++ "[k]; \x7d\n  \x7d);\n\x7d);\n"

/-- The text of the bundle of the module that is named `title`, behind the lines `top`. -/
def text (l : Links) (top : List String) (title : String) : String :=
  let n := l.names
  let mark := if l.exports.any (·.1 == "default") then
    ["Object.defineProperty(exports, '__esModule', \x7b value: true \x7d);"] else []
  let front := if l.wholes.isEmpty then [] else [(String.ofList prelude.toList.dropLast)]
  let requires := String.join ((l.requireLines n).map (· ++ "\n"))
  let items := l.bodyItems n
  let body := if items.isEmpty then [] else
    ["//#region " ++ title, itemsText items 0, "//#endregion"]
  let exports := "\n".intercalate (l.exportLines n) ++
    String.join (l.stars.map fun s => starText s (n.space s))
  "\n".intercalate
    (top ++ mark ++ front ++ [requires] ++ body ++ if exports.isEmpty then [] else [exports])

end Links

/-! ### Faults -/

/-- Statements declare a name twice, so that it cannot be told what it means. -/
def clashes (items : List Item) : Bool :=
  let names := lexicalAll items
  !decide names.Nodup || names.any (hoistedAll items).contains

namespace Program

/-- A name that is exported is declared nowhere. -/
def exportsUnknown (p : Program) : Bool :=
  let names := bodyNames p.items
  p.items.any fun i => match i.stmt with
    | .exportNames _ bindings none => bindings.any fun b => !names.contains b.name.text
    | _ => false

/-- The lines that stay in front of a bundle: the one that names what runs it, and the directives.
-/
def topLines (p : Program) : List String :=
  let directives := p.items.filterMap fun i => match i.stmt with
    | .directive raw => some (directiveText raw ++ ";")
    | _ => none
  p.runner.toList ++ if directives.isEmpty then [] else directives ++ [""]

/-- The plain module at `path` as a script that requires and assigns; none where its names make no
sense. -/
def bundle? (path : Path) (p : Program) : Option String :=
  if clashes p.items || p.exportsUnknown then none
  else
    let stem := path.stem?.getD ""
    let stem := if stem == "index" then ((path.parent?.bind Path.stem?).getD stem) else stem
    let links := p.inlined.links (variableLike stem ++ "_default")
    some (links.shaken.text p.topLines ((path.fileName?).getD ""))

end Program

end StorySuite.Script
