import StorySuite.Script.Printer.Atom
import StorySuite.Script.Printer.Place

/-!
# Script — writing a program

One statement to a line, each level one tab deeper, brackets only where they are needed, and around
functions where the program has them.  Objects of more than one property and arrays of more than two
items take a line for each.  Types and elements are not written.
-/

namespace StorySuite.Script

namespace VariableKind

/-- The words of the declaration. -/
def text : VariableKind → String
  | .var => "var"
  | .let => "let"
  | .const => "const"
  | .using => "using"
  | .awaitUsing => "await using"

end VariableKind

namespace MethodKind

/-- The word in front of the name. -/
def text : MethodKind → String
  | .getter => "get "
  | .setter => "set "
  | .method | .constructor => ""

end MethodKind

/-- The mark that a call has no effect. -/
def pureMark : String :=
  "/* @__PURE__ */ "

/-- The words `word` where `b` holds. -/
def wordIf (b : Bool) (word : String) : String :=
  if b then word else ""

/-- The text of a member behind the text of what it is taken of. -/
def memberText (object property : String) (optional : Bool) : String :=
  let apart := !optional && object.toList.all Char.isDigit
  object ++ (if optional then "?." else if apart then " ." else ".") ++ property

/-- The text of a template; `values` are the texts of its values. -/
def templateText : List Chunk → List String → String
  | c :: cs, v :: vs =>
    String.ofList (guarded c.raw.toList) ++ "$\x7b" ++ v ++ "\x7d" ++ templateText cs vs
  | c :: _, [] => String.ofList (guarded c.raw.toList)
  | [], _ => ""

/-- What is said about the source of an import. -/
def ModuleSource.written (m : ModuleSource) : String :=
  m.text.text ++
    match m.attributes with
    | none => ""
    | some [] => " with \x7b\x7d"
    | some as =>
      " with \x7b " ++ commas (as.map fun a => a.1.written ++ ": " ++ a.2.text) ++ " \x7d"

/-- A name under which something is exported or imported, behind its own name. -/
def renamed (own shown : String) : String :=
  if own == shown then own else own ++ " as " ++ shown

namespace ImportKind

/-- The word for the kind of an import. -/
def word : ImportKind → Option String
  | .values | .types => none
  | .source => some "source"
  | .deferred => some "defer"

end ImportKind

namespace ImportBinding

/-- The text of an import, where it is one of those in braces. -/
def named? : ImportBinding → Option String
  | .named imported name _ => some (renamed imported.written name)
  | _ => none

/-- The text of an import that stands on its own. -/
def single? : ImportBinding → Option String
  | .default name => some name
  | .namespace name => some ("* as " ++ name)
  | .named .. => none

/-- The text of all that is imported from somewhere. -/
def written (bs : List ImportBinding) : String :=
  let named := bs.filterMap named?
  commas (bs.filterMap single? ++
    if named.isEmpty && !bs.isEmpty then [] else
      [if named.isEmpty then "\x7b\x7d" else "\x7b " ++ commas named ++ " \x7d"])

end ImportBinding

namespace ExportBinding

/-- The text of an export. -/
def written (b : ExportBinding) : String :=
  renamed b.name.written b.exported.written

end ExportBinding

mutual

/-- The text of an expression at a place. -/
def Expr.text : Expr → Place → String
  | .name s, _ => s
  | .literal l, _ => l.text
  | .template chunks values, p =>
    "`" ++ templateText chunks (textsOf values (Place.plain Level.lowest p.depth)) ++ "`"
  | .tagged tag _ chunks values, p =>
    tag.text { p with level := Level.suffix, allowCall := true } ++ "`" ++
      templateText chunks (textsOf values (Place.plain Level.lowest p.depth)) ++ "`"
  | .array items, p =>
    let many := 2 < items.length
    let parts := textsOf items (Place.plain Level.comma (if many then p.depth + 1 else p.depth))
    let more := wordIf (items.getLast?.any Expr.isHole) ","
    if many then "[\n" ++ tabs (p.depth + 1) ++
      String.intercalate (",\n" ++ tabs (p.depth + 1)) parts ++ more ++ "\n" ++ tabs p.depth ++ "]"
    else "[" ++ commas parts ++ more ++ "]"
  | .object properties, p =>
    bracketed p.opensBlock <|
      match properties with
      | [] => braced ""
      | [_] => braced (" " ++ commas (propertiesText properties p.depth) ++ " ")
      | _ => braced (onLines p.depth (propertiesText properties (p.depth + 1)))
  | .function f, p => bracketed p.declares (f.text p.depth)
  | .arrow f, p =>
    let wrapped := Level.assign ≤ p.level
    bracketed wrapped (f.arrowText (p.inner wrapped Level.comma))
  | .class c, p => bracketed p.declares (c.text p.depth)
  | .unary op e, p =>
    let wrapped := Level.sign ≤ p.level
    let operand := e.text (p.inner wrapped Level.pow).after
    let apart := op.isWord ||
      (op == .minus || op == .plus) && operand.toList.take 1 == op.text.toList
    bracketed wrapped (op.text ++ wordIf apart " " ++ operand)
  | .update increment before e, p =>
    let sign := if increment then "++" else "--"
    if before then
      let wrapped := Level.sign ≤ p.level
      bracketed wrapped (sign ++ e.text (p.inner wrapped Level.sign).after)
    else
      let wrapped := Level.suffix ≤ p.level
      bracketed wrapped (e.text (p.inner wrapped Level.suffix) ++ sign)
  | .binary op a b, p =>
    let wrapped := op.level ≤ p.level || op == .in && !p.allowIn
    let left := a.text (p.inner wrapped (op.leftLevel a))
    let right := b.text (p.inner wrapped (op.rightLevel b)).after
    bracketed wrapped (left ++ " " ++ op.text ++ " " ++ right)
  | .assign op target value, p =>
    let wrapped := Level.assign ≤ p.level || p.opensBlock && target.isObject
    let sign := match op with
      | none => "="
      | some op => op.text ++ "="
    bracketed wrapped (target.text true (p.inner wrapped Level.comma) ++ " " ++ sign ++ " " ++
      value.text (p.inner wrapped Level.comma).after)
  | .conditional test yes no, p =>
    let wrapped := Level.conditional ≤ p.level
    bracketed wrapped (test.text (p.inner wrapped Level.conditional) ++ " ? " ++
      yes.text (Place.plain Level.yield p.depth) ++ " : " ++
      no.text (p.inner wrapped Level.yield).after)
  | .call callee _ arguments optional pure, p =>
    let wrapped := Level.new ≤ p.level || !p.allowCall || Level.suffix ≤ p.level && pure
    bracketed wrapped (wordIf pure pureMark ++ callee.text (p.inner wrapped Level.suffix) ++
      wordIf optional "?." ++ "(" ++
      commas (textsOf arguments (Place.plain Level.comma p.depth)) ++ ")")
  | .new callee _ arguments pure, p =>
    let wrapped := Level.call ≤ p.level || Level.suffix ≤ p.level && pure
    bracketed wrapped (wordIf pure pureMark ++ "new " ++
      callee.text { Place.plain Level.new p.depth with allowCall := false } ++ "(" ++
      commas (textsOf arguments (Place.plain Level.comma p.depth)) ++ ")")
  | .member e property optional, p =>
    memberText (e.text { p with level := Level.suffix, allowIn := true }) property optional
  | .privateMember e property optional, p =>
    memberText (e.text { p with level := Level.suffix, allowIn := true }) ("#" ++ property) optional
  | .index e key optional, p =>
    e.text { p with level := Level.suffix, allowIn := true } ++ wordIf optional "?." ++ "[" ++
      key.text (Place.plain Level.lowest p.depth) ++ "]"
  | .privateIn property e, p =>
    let wrapped := Level.compare ≤ p.level || !p.allowIn
    bracketed wrapped ("#" ++ property ++ " in " ++ e.text (Place.plain Level.compare p.depth))
  | .sequence es, p =>
    let wrapped := Level.comma ≤ p.level
    bracketed wrapped (commas (textsOf es (p.inner wrapped Level.lowest)))
  | .yield delegate e, p =>
    let wrapped := Level.yield ≤ p.level
    bracketed wrapped ("yield" ++ wordIf delegate "*" ++
      optionText " " e (p.inner wrapped Level.yield).after)
  | .await e, p =>
    let wrapped := Level.sign ≤ p.level
    bracketed wrapped ("await " ++ e.text (p.inner wrapped Level.pow).after)
  | .this, _ => "this"
  | .super, _ => "super"
  | .newTarget, _ => "new.target"
  | .importMeta, _ => "import.meta"
  | .importCall kind arguments, p =>
    bracketed (Level.new ≤ p.level || !p.allowCall)
      ("import" ++ kind.word.elim "" ("." ++ ·) ++ "(" ++
        commas (textsOf arguments (Place.plain Level.comma p.depth)) ++ ")")
  | .paren e, p =>
    let wrapped := e.isFunction || Level.suffix ≤ p.level && e.isChain
    if wrapped then "(" ++ e.text (Place.plain Level.lowest p.depth) ++ ")" else e.text p
  | .cast _ _ e, p => e.text p
  | .spread e, p => "..." ++ e.text (Place.plain Level.comma p.depth)
  | .element .., _ | .elementText _, _ | .hole, _ => ""

/-- The texts of expressions; the first of them stands at the place, the others behind it. -/
def textsOf : List Expr → Place → List String
  | [], _ => []
  | e :: es, p => e.text p :: textsOf es p.after

/-- The text of an expression behind `front`, if there is one. -/
def optionText (front : String) : Option Expr → Place → String
  | none, _ => ""
  | some e, p => front ++ e.text p

/-- The text of a pattern at a place; `existing` tells that it declares nothing. -/
def Pattern.text : Pattern → Bool → Place → String
  | .name s, _, _ => s
  | .target e, _, p => e.text { p with level := Level.comma }
  | .array ps, existing, p =>
    "[" ++ commas (patternsText ps existing p.depth) ++
      wordIf (ps.getLast?.any Pattern.isHole) "," ++ "]"
  | .object ps, existing, p =>
    let inner := commas (patternsText ps existing p.depth)
    braced (if existing || ps.isEmpty then inner else " " ++ inner ++ " ")
  | .property key shorthand q, existing, p =>
    let name := match key with
      | .name s => some s
      | _ => none
    let short := if existing && !shorthand then false else name.isSome && name == q.soleName?
    wordIf (!short) (key.text p.depth ++ ": ") ++ q.text existing (Place.plain Level.comma p.depth)
  | .withDefault q e, existing, p =>
    q.text existing p ++ " = " ++
      e.text { Place.plain Level.comma p.depth with allowIn := p.allowIn }
  | .typed q _, existing, p => q.text existing p
  | .parameter ds _ q, existing, p => decoratorsText ds p.depth ++ q.text existing p
  | .rest q, existing, p => "..." ++ q.text existing p
  | .hole, _, _ => ""

/-- The texts of patterns. -/
def patternsText : List Pattern → Bool → Nat → List String
  | [], _, _ => []
  | q :: qs, existing, n =>
    q.text existing (Place.plain Level.comma n) :: patternsText qs existing n

/-- The texts of decorators, each with a blank behind it. -/
def decoratorsText : List Expr → Nat → String
  | [], _ => ""
  | e :: es, n =>
    "@" ++ bracketed (!e.bare.isDecoratorName) (e.text (Place.plain Level.lowest n)) ++ " " ++
      decoratorsText es n

/-- The text of the name of a property. -/
def PropertyKey.text : PropertyKey → Nat → String
  | .name s, _ => s
  | .string t, _ => t.text
  | .number x, _ => if x.isSome then Numeral.text x else "[" ++ Numeral.text x ++ "]"
  | .bigint digits, _ => toString digits ++ "n"
  | .privateName s, _ => "#" ++ s
  | .computed e, n => "[" ++ e.text (Place.plain Level.comma n) ++ "]"

/-- The text of a property. -/
def Property.text : Property → Nat → String
  | .value key e, n =>
    let short := match key, e.bare with
      | .name s, .name t => s == t && s != "__proto__"
      | _, _ => false
    wordIf (!short) (key.text n ++ ": ") ++ e.text (Place.plain Level.comma n)
  | .shorthand name, _ => name
  | .initialized name value, n => name ++ " = " ++ value.text (Place.plain Level.comma n)
  | .method kind key f, n => kind.text ++ f.marks ++ key.text n ++ f.tail n
  | .spread e, n => "..." ++ e.text (Place.plain Level.comma n)

/-- The texts of properties. -/
def propertiesText : List Property → Nat → List String
  | [], _ => []
  | q :: qs, n => q.text n :: propertiesText qs n

/-- What stands in front of the name of a method. -/
def Function.marks : Function → String
  | .mk _ isAsync isGenerator _ _ _ _ => wordIf isAsync "async " ++ wordIf isGenerator "*"

/-- The text of a function behind its name. -/
def Function.tail : Function → Nat → String
  | .mk _ _ _ _ parameters form body, n =>
    "(" ++ commas (patternsText parameters false n) ++ ")" ++
      if form == .missing then ";" else " " ++ blockText n (bodyText body (n + 1))

/-- The text of a function with its name. -/
def Function.text : Function → Nat → String
  | .mk name isAsync isGenerator _ parameters form body, n =>
    wordIf isAsync "async " ++ "function" ++ wordIf isGenerator "*" ++
      wordIf name.isSome (" " ++ name.getD "") ++
      "(" ++ commas (patternsText parameters false n) ++ ")" ++
      if form == .missing then ";" else " " ++ blockText n (bodyText body (n + 1))

/-- The text of an arrow; `p` is the place inside the brackets around it. -/
def Function.arrowText : Function → Place → String
  | .mk _ isAsync _ _ parameters form body, p =>
    wordIf isAsync "async " ++ "(" ++ commas (patternsText parameters false p.depth) ++ ") => " ++
      if form == .value then valueText body { p with head := .arrowBody }
      else blockText p.depth (bodyText body (p.depth + 1))

/-- The text of the expression that is the body of an arrow. -/
def valueText : List Item → Place → String
  | .mk _ (.return (some e)) :: _, p => e.text p
  | _, _ => ""

/-- The text of a class. -/
def Class.text : Class → Nat → String
  | .mk ds name _ heritage members, n =>
    decoratorsText ds n ++ "class" ++ wordIf name.isSome (" " ++ name.getD "") ++
      optionText " extends " heritage (Place.plain Level.suffix n) ++ " " ++
      blockText n (membersText members (n + 1))

/-- The text of a member of a class. -/
def Member.text : Member → Nat → String
  | .method comments ds isStatic kind key f, n =>
    let (front, lead) := commentsText n .line comments
    front ++ lead.text n ++ decoratorsText ds n ++ wordIf isStatic "static " ++ kind.text ++
      f.marks ++ key.text n ++ f.tail n ++ "\n"
  | .field comments ds isStatic isAccessor _ key _ value, n =>
    let (front, lead) := commentsText n .line comments
    front ++ lead.text n ++ decoratorsText ds n ++ wordIf isStatic "static " ++
      wordIf isAccessor "accessor " ++ key.text n ++
      optionText " = " value (Place.plain Level.comma n) ++ ";\n"
  | .block comments items, n =>
    let (front, lead) := commentsText n .line comments
    front ++ lead.text n ++ "static " ++ blockText n (itemsText items (n + 1)) ++ "\n"
  | .signature _, _ => ""

/-- The text of the members of a class. -/
def membersText : List Member → Nat → String
  | [], _ => ""
  | m :: ms, n => m.text n ++ membersText ms n

/-- The text of a statement that is `n` levels deep. -/
def Stmt.text : Stmt → Lead → Nat → String
  | .empty, lead, n => wordIf (lead == .line) (tabs n) ++ ";"
  | .ending, _, _ => ""
  | .directive raw, lead, n => lead.text n ++ directiveText raw ++ ";"
  | .block items, lead, n => lead.text n ++ blockText n (itemsText items (n + 1))
  | .expr e, lead, n =>
    lead.text n ++ e.text { Place.plain Level.lowest n with head := .statement } ++ ";"
  | .declaration kind ps, lead, n =>
    lead.text n ++ kind.text ++ " " ++ commas (patternsText ps false n) ++ ";"
  | .function f, lead, n => lead.text n ++ f.text n
  | .class c, lead, n => lead.text n ++ c.text n
  | .choice test yes no, lead, n =>
    let isBlock := yes.isBlock || yes.endsInChoice
    lead.text n ++ "if (" ++ test.text (Place.plain Level.lowest n) ++ ")" ++
      (if yes.endsInChoice then " " ++ blockText n (yes.text .line (n + 1) ++ "\n")
        else yes.text .body n) ++
      alternativeText (if isBlock then " " else "\n" ++ tabs n) no n
  | .forLoop init test step body, lead, n =>
    lead.text n ++ "for (" ++ initText init n ++ ";" ++
      optionText " " test (Place.plain Level.lowest n) ++ ";" ++
      optionText " " step (Place.plain Level.lowest n) ++ ")" ++ body.text .body n
  | .forIn kind q e body, lead, n =>
    lead.text n ++ "for (" ++ kind.elim "" (·.text ++ " ") ++
      q.text kind.isNone { Place.plain Level.comma n with allowIn := false } ++ " in " ++
      e.text (Place.plain Level.lowest n) ++ ")" ++ body.text .body n
  | .forOf isAwait kind q e body, lead, n =>
    let target := q.text kind.isNone (Place.plain Level.comma n)
    lead.text n ++ "for " ++ wordIf isAwait "await " ++ "(" ++ kind.elim "" (·.text ++ " ") ++
      bracketed (kind.isNone && !isAwait && target == "async") target ++ " of " ++
      e.text (Place.plain Level.comma n) ++ ")" ++ body.text .body n
  | .whileLoop test body, lead, n =>
    lead.text n ++ "while (" ++ test.text (Place.plain Level.lowest n) ++ ")" ++ body.text .body n
  | .doWhile body test, lead, n =>
    lead.text n ++ "do" ++
      (if body.isBlock then body.text .body n ++ " "
        else "\n" ++ body.text .line (n + 1) ++ "\n" ++ tabs n) ++
      "while (" ++ test.text (Place.plain Level.lowest n) ++ ");"
  | .return e, lead, n =>
    lead.text n ++ "return" ++ optionText " " e (Place.plain Level.lowest n) ++ ";"
  | .throw e, lead, n => lead.text n ++ "throw " ++ e.text (Place.plain Level.lowest n) ++ ";"
  | .break label, lead, n => lead.text n ++ "break" ++ label.elim "" (" " ++ ·) ++ ";"
  | .continue label, lead, n => lead.text n ++ "continue" ++ label.elim "" (" " ++ ·) ++ ";"
  | .switch e cases, lead, n =>
    lead.text n ++ "switch (" ++ e.text (Place.plain Level.lowest n) ++ ") " ++
      blockText n (itemsText cases (n + 1))
  | .case test body, lead, n =>
    lead.text n ++ (if test.isSome then "case" else "default") ++
      optionText " " test (Place.plain Level.lowest n) ++ ":" ++ caseText body n
  | .tryBlock items handler finalizer, lead, n =>
    lead.text n ++ "try " ++ blockText n (itemsText items (n + 1)) ++ branchText "" handler n ++
      branchText " finally" finalizer n
  | .handler q items, _, n =>
    " catch " ++ wordIf (!q.isHole) ("(" ++ q.text false (Place.plain Level.comma n) ++ ") ") ++
      blockText n (itemsText items (n + 1))
  | .labeled label body, lead, n => lead.text n ++ label ++ ":" ++ body.text .body n
  | .withScope e body, lead, n =>
    lead.text n ++ "with(" ++ e.text (Place.plain Level.lowest n) ++ ")" ++ body.text .body n
  | .debugger, lead, n => lead.text n ++ "debugger;"
  | .import kind bindings source, lead, n =>
    lead.text n ++ "import " ++ kind.word.elim "" (· ++ " ") ++
      bindings.elim "" (fun bs => ImportBinding.written bs ++ " from ") ++ source.written ++ ";"
  | .exportNames _ bindings source, lead, n =>
    let inner := commas (bindings.map ExportBinding.written)
    lead.text n ++ "export " ++ braced (if bindings.isEmpty then "" else " " ++ inner ++ " ") ++
      source.elim "" (" from " ++ ·.written) ++ ";"
  | .exportAll _ as source, lead, n =>
    lead.text n ++ "export *" ++ as.elim "" (" as " ++ ·.written) ++ " from " ++ source.written ++
      ";"
  | .exportDeclaration s, lead, n => lead.text n ++ "export " ++ s.text .none n
  | .exportDefault s, lead, n => lead.text n ++ "export default " ++ s.defaultText n
  | .ambient _, _, _ | .typeName .., _, _ | .enum .., _, _ | .namespace .., _, _
  | .importAlias .., _, _ | .exportAssignment _, _, _ | .exportAsNamespace _, _, _ => ""

/-- The text of what a program exports by default. -/
def Stmt.defaultText : Stmt → Nat → String
  | .expr e, n => e.text { Place.plain Level.comma n with head := .defaultExport } ++ ";"
  | .function f, n => f.text n
  | .class c, n => c.text n
  | _, _ => ""

/-- The text of an alternative with its word, behind `front`. -/
def alternativeText (front : String) : Option Stmt → Nat → String
  | none, _ => ""
  | some s, n => front ++ "else" ++ s.text .body n

/-- The text of a branch behind `front`, if there is one. -/
def branchText (front : String) : Option Stmt → Nat → String
  | none, _ => ""
  | some s, n => front ++ s.text .body n

/-- The text of the statements of a case. -/
def caseText : List Item → Nat → String
  | [], _ => ""
  | .mk comments s :: items, n =>
    if items.isEmpty then
      let (front, lead) := if s.isBlock then ("", .body) else commentsText n .body comments
      front ++ s.text lead n
    else
      let (front, lead) := commentsText (n + 1) .line comments
      "\n" ++ front ++ s.text lead (n + 1) ++
        String.join ((lastLines items (n + 1)).map ("\n" ++ ·))

/-- The texts of the statements of a case behind the first one. -/
def lastLines : List Item → Nat → List String
  | [], _ => []
  | .mk comments s :: items, n =>
    let (front, lead) := commentsText n .line comments
    (front ++ s.text lead n) :: lastLines items n

/-- The text at the beginning of a loop. -/
def initText : Option Stmt → Nat → String
  | some (.declaration kind ps), n => kind.text ++ " " ++ commas (declaredText ps n)
  | some (.expr e), n => e.text { Place.plain Level.lowest n with allowIn := false }
  | _, _ => ""

/-- The texts of variables that are declared at the beginning of a loop. -/
def declaredText : List Pattern → Nat → List String
  | [], _ => []
  | q :: qs, n =>
    q.text false { Place.plain Level.comma n with allowIn := false } :: declaredText qs n

/-- The text of statements. -/
def itemsText : List Item → Nat → String
  | [], _ => ""
  | [.mk comments .ending], n => (commentsText n .line comments).1
  | .mk comments s :: items, n =>
    let (front, lead) := commentsText n .line comments
    front ++ s.text lead n ++ "\n" ++ itemsText items n

/-- The text of the statements of a body, of which the first may not be taken for a directive. -/
def bodyText : List Item → Nat → String
  | [.mk comments .ending], n => (commentsText n .line comments).1
  | .mk comments (.expr e) :: items, n =>
    let (front, lead) := commentsText n .line comments
    front ++ lead.text n ++ bracketed e.bare.isText
      (e.text { Place.plain Level.lowest n with head := .statement }) ++ ";\n" ++ itemsText items n
  | .mk comments s :: items, n =>
    let (front, lead) := commentsText n .line comments
    front ++ s.text lead n ++ "\n" ++ itemsText items n
  | [], _ => ""

end

namespace Program

/-- The text of a program. -/
def text (p : Program) : String :=
  p.runner.elim "" (· ++ "\n") ++ bodyText p.items 0

end Program

end StorySuite.Script
