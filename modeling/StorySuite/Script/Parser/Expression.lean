import StorySuite.Script.Operator
import StorySuite.Script.Parser.Element
import StorySuite.Script.Parser.Function

/-!
# Script — expressions
-/

namespace StorySuite.Script

namespace Expr

/-- Marks the call that an expression begins with as one without an effect. -/
def markPure : Expr → Expr
  | .call f types args o _ => .call f types args o true
  | .new f types args _ => .new f types args true
  | .binary op a b => .binary op a.markPure b
  | .conditional a b c => .conditional a.markPure b c
  | e => e

/-- The operands of the operator may stand beside it without parentheses. -/
def mayJoin (op : BinaryOp) (a b : Expr) : Bool :=
  match op with
  | .nullish => !isLogical a && !isLogical b
  | .or | .and => !isNullish a && !isNullish b
  | .pow => match a with
    | .unary .. | .await _ | .cast .assertion _ _ => false
    | _ => true
  | _ => true
where
  /-- The expression chooses by truth. -/
  isLogical : Expr → Bool
    | .binary .or _ _ | .binary .and _ _ => true
    | _ => false
  /-- The expression chooses by absence. -/
  isNullish : Expr → Bool
    | .binary .nullish _ _ => true
    | _ => false

end Expr

namespace Expr

/-- Types are given to the expression, and nothing more. -/
def isInstantiation : Expr → Bool
  | .cast .instantiation _ _ => true
  | _ => false

end Expr

namespace Parser

/-! ### Operands -/

/-- A template; its first piece is in front.  `tagged` admits pieces without a text. -/
def template (g : Grammar) (tagged : Bool) : Parser (List Chunk × List Expr) := do
  let piece : Parser (Chunk × Bool) := do
    match ← token with
    | .chunk c closed =>
      ensure (tagged || c.text.isSome)
      advance
      return (c, closed)
    | _ => failure
  let (c, closed) ← piece
  let (cs, es, _) ← iterate ([c], [], closed) fun (cs, es, closed) => do
    if closed then return none
    else
      let e ← within (fun c => { c with allowIn := true, inChoice := false }) g.expression
      ensure (← atSign "\x7d")
      let (t, rest) := Lexer.chunk (← read).fuel (← get).rest
      modify fun s => { s with token := t, rest }
      let (c, closed) ← piece
      return some (c :: cs, e :: es, closed)
  return (cs.reverse, es.reverse)

/-- A list. -/
def arrayLiteral (g : Grammar) : Parser Expr := do
  sign "["
  .array <$> within (fun c => { c with allowIn := true, inChoice := false }) (separated "]" do
    if ← atSign "," then return .hole
    else if ← takeSign "..." then return .spread (← g.assignment)
    else g.assignment)

/-- The name of a property, after a word before it, begins here. -/
def atPropertyName : Parser Bool := do
  match ← token with
  | .name .. | .string .. | .number _ | .bigint _ => return true
  | .sign s => return s == "["
  | _ => return false

/-- A method with the words in front of its name, if those are here. -/
def markedMethod? (g : Grammar) : Parser (Option Property) := do
  let follows (alsoStar sameLine : Bool) : Parser Bool := seems do
    advance
    let star ← atSign "*"
    let broken ← newline
    return !(sameLine && broken) && ((alsoStar && star) || (← atPropertyName))
  if (← atWord "async") && (← follows true true) then
    advance
    let isGenerator ← takeSign "*"
    let key ← propertyKey g
    return some (.method .method key (← methodTail g .method true isGenerator false))
  else if (← atWord "get") && (← follows false false) then
    advance
    let key ← propertyKey g
    return some (.method .getter key (← methodTail g .getter false false false))
  else if (← atWord "set") && (← follows false false) then
    advance
    let key ← propertyKey g
    return some (.method .setter key (← methodTail g .setter false false false))
  else if ← takeSign "*" then
    let key ← propertyKey g
    return some (.method .method key (← methodTail g .method false true false))
  else return none

/-- A property of an object. -/
def property (g : Grammar) : Parser Property := do
  if ← takeSign "..." then return .spread (← g.assignment)
  else
    match ← markedMethod? g with
    | some p => return p
    | none =>
      let isVariable ← atVariable
      let key ← propertyKey g
      if ← takeSign ":" then return .value key (← g.assignment)
      else if ← atSign "(" <||> atSign "<" then
        return .method .method key (← methodTail g .method false false false)
      else
        match key with
        | .name s =>
          ensure isVariable
          if ← takeSign "=" then
            let value ← g.assignment
            modify ({ · with owesPattern := true })
            return .initialized s value
          else return .shorthand s
        | _ => failure

/-- An object. -/
def objectLiteral (g : Grammar) : Parser Expr := do
  sign "\x7b"
  .object <$> within (fun c => { c with allowIn := true, inChoice := false })
    (separated "\x7d" (property g))

/-- The word `async` begins a function. -/
def atAsyncFunction : Parser Bool :=
  seems do
    word "async"
    return (← atWord "function") && !(← newline)

/-- What `import` is in an expression, after the word. -/
def importExpression (g : Grammar) : Parser Expr := do
  if ← takeSign "." then
    match ← anyName with
    | "meta" => return .importMeta
    | "source" => importArguments .source
    | "defer" => importArguments .deferred
    | _ => failure
  else importArguments .values
where
  /-- A module and what is said about it, in parentheses. -/
  importArguments (kind : ImportKind) : Parser Expr := do
    sign "("
    let es ← argumentList g
    ensure (es.length == 1 || es.length == 2)
    ensure (es.all fun
      | .spread _ => false
      | _ => true)
    return .importCall kind es

/-- An operand that is a name, a value, or something in marks of its own. -/
def primary (g : Grammar) : Parser Expr := do
  match ← token with
  | .number x =>
    advance
    return .literal (.number x)
  | .bigint n =>
    advance
    return .literal (.bigint n)
  | .string t _ =>
    advance
    return .literal (.string t)
  | .chunk .. =>
    let (cs, es) ← template g false
    return .template cs es
  | .sign "(" =>
    advance
    let e ← within (fun c => { c with allowIn := true, inChoice := false }) g.expression
    sign ")"
    return .paren e
  | .sign "[" => arrayLiteral g
  | .sign "\x7b" => objectLiteral g
  | .sign "@" =>
    let ds ← decorators g
    word "class"
    return .class (← classAfterWord g ds)
  | .sign "<" =>
    ensure (← read).hasElements
    let e ← elementProduction g
    sign ">"
    return e
  | .sign s =>
    ensure (s == "/" || s == "/=")
    match Lexer.regex? (← get).here with
    | some (l, rest) =>
      goOn false rest
      return .literal l
    | none => failure
  | .name s escaped =>
    if !escaped && s == "function" then
      advance
      return .function (← functionAfterWord g false true false)
    else if !escaped && s == "class" then
      advance
      return .class (← classAfterWord g [])
    else if ← atAsyncFunction then
      advance
      advance
      return .function (← functionAfterWord g true true false)
    else
      match if escaped then none else wordValue? s with
      | some e =>
        advance
        return e
      | none =>
        if !escaped && s == "import" then
          advance
          importExpression g
        else if !escaped && s == "super" then
          advance
          ensure (← atSign "(" <||> atSign "." <||> atSign "[")
          return .super
        else return .name (← variableName)
  | _ => failure
where
  /-- The word that is a value. -/
  wordValue? : String → Option Expr
    | "this" => some .this
    | "null" => some (.literal .null)
    | "true" => some (.literal (.bool true))
    | "false" => some (.literal (.bool false))
    | _ => none

/-! ### Members and calls -/

/-- The property after a point. -/
def memberAfterPoint (e : Expr) (optional : Bool) : Parser Expr := do
  match ← token with
  | .privateName s =>
    advance
    return .privateMember e s optional
  | _ => return .member e (← anyName) optional

/-- The value in brackets, after the opening one. -/
def indexTail (g : Grammar) : Parser Expr := do
  let key ← within (fun c => { c with allowIn := true, inChoice := false }) g.expression
  sign "]"
  return key

/-- After types in angle brackets, an expression does not go on as the comparison of values would.
-/
def endsTypeArguments : Parser Bool := do
  match ← token with
  | .chunk .. | .finish => return true
  | .sign s =>
    let opening := ["<", ">", "+", "-", "[", "\x7b", "!", "~", "++", "--", "/", "/=", "@", "<<"]
    return !opening.contains s || (← newline)
  | .name s _ => return (← newline) || ["in", "instanceof", "as", "satisfies", "of"].contains s
  | _ => newline

/-- Types given to an expression, where what follows makes clear that they are. -/
def givenTypes? (g : Grammar) : Parser (Option (List String)) := do
  if (← read).hasTypes then
    match ← token with
    | .sign s =>
      if s == "<" || s == "<<" then
        attempt do
          let types ← typeArguments g
          ensure (← endsTypeArguments)
          return types
      else return none
    | _ => return none
  else return none

/-- What a call without a point goes on with after `?.`. -/
def optionalTail (g : Grammar) (e : Expr) : Parser Expr := do
  if ← takeSign "(" then return .call e [] (← argumentList g) true false
  else if ← takeSign "[" then return .index e (← indexTail g) true
  else
    match ← givenTypes? g with
    | some types =>
      sign "("
      return .call e types (← argumentList g) true false
    | none =>
      ensure !e.isInstantiation
      memberAfterPoint e true

/-- One more member, call or template after `e`. -/
def suffix? (g : Grammar) (calls : Bool) (e : Expr) : Parser (Option Expr) := do
  match ← token with
  | .chunk .. =>
    ensure !e.isOptional
    let (cs, es) ← template g true
    return some (.tagged e [] cs es)
  | .sign "." =>
    ensure !e.isInstantiation
    advance
    some <$> memberAfterPoint e false
  | .sign "?." =>
    ensure calls
    advance
    some <$> optionalTail g e
  | .sign "[" =>
    advance
    return some (.index e (← indexTail g) false)
  | .sign "(" =>
    if calls then
      advance
      return some (.call e [] (← argumentList g) false false)
    else return none
  | .sign "!" =>
    if (← read).hasTypes && !(← newline) then
      advance
      return some (.cast .nonNull [] e)
    else return none
  | _ =>
    if !calls then return none
    else
      match ← givenTypes? g with
      | none => return none
      | some types =>
        if ← takeSign "(" then return some (.call e types (← argumentList g) false false)
        else
          match ← token with
          | .chunk .. =>
            let (cs, es) ← template g true
            return some (.tagged e types cs es)
          | _ => return some (.cast .instantiation types e)

/-- The members and calls after `e`. -/
def suffixes (g : Grammar) (calls : Bool) (e : Expr) : Parser Expr :=
  iterate e (suffix? g calls)

/-- What is constructed, after the word `new`. -/
def newTail (g : Grammar) : Parser Expr := do
  if ← takeSign "." then
    word "target"
    return .newTarget
  else
    let callee ← if ← atWord "new" then g.unary
      else do
        let e ← primary g
        ensure (match e with
          | .importCall .. => false
          | _ => true)
        suffixes g false e
    ensure !callee.isOptional
    let types ← givenTypes? g
    let args ← if ← takeSign "(" then argumentList g else pure []
    return .new callee (types.getD []) args false

/-- An operand with its members and calls. -/
def leftSide (g : Grammar) : Parser Expr := do
  if ← takeWord "new" then suffixes g true (← newTail g)
  else suffixes g true (← primary g)

/-! ### Operators -/

/-- An operand with the operators in front of it. -/
def unaryProduction (g : Grammar) : Parser Expr := do
  let t ← token
  match UnaryOp.ofToken? t with
  | some op =>
    advance
    return .unary op (← g.unary)
  | none =>
    if t == .sign "++" || t == .sign "--" then
      advance
      let e ← g.unary
      ensure e.isPlace
      return .update (t == .sign "++") true e
    else if t == .name "await" false && (← read).isAsync then
      ensure !(← read).barsAwait
      advance
      return .await (← g.unary)
    else if (t == .sign "<" || t == .sign "<<") && (← read).hasTypes && !(← read).hasElements then
      ensure (← openAngle)
      let types ← if ← takeWord "const" then pure [] else g.type
      sign ">"
      return .cast .assertion types (← g.unary)
    else
      let e ← leftSide g
      let u ← token
      if (u == .sign "++" || u == .sign "--") && !(← newline) then
        ensure e.isPlace
        advance
        return .update (u == .sign "++") false e
      else return e

/-- The operator between operands in front, with its text. -/
def operator? : Parser (Option (BinaryOp × String)) := do
  match ← token with
  | .sign ">" =>
    let s ← angle
    return (BinaryOp.ofText? s).map (·, s)
  | .sign s => return (BinaryOp.ofText? s).map (·, s)
  | .name s false =>
    if s == "in" && !(← read).allowIn then return none
    else if s == "in" || s == "instanceof" then return (BinaryOp.ofText? s).map (·, s)
    else return none
  | _ => return none

/-- A type given to the expression before it, if it binds tightly enough. -/
def castTail? (g : Grammar) (least : Nat) (e : Expr) : Parser (Option Expr) := do
  let isCast ← atAnyWord ["as", "satisfies"]
  if isCast && (← read).hasTypes && least ≤ BinaryOp.lt.precedence && !(← newline) then
    let form := if ← atWord "as" then CastForm.as else .satisfies
    advance
    let types ← if ← pure (form == .as) <&&> takeWord "const" then pure [] else g.type
    return some (.cast form types e)
  else return none

/-- The first operand of an operator. -/
def operand (g : Grammar) : Parser Expr := do
  match ← token with
  | .privateName s =>
    advance
    ensure ((← atWord "in") && (← read).allowIn)
    advance
    return .privateIn s (← g.binary (BinaryOp.in.precedence + 1))
  | _ => unaryProduction g

/-- Operands and the operators between them that bind at least as tightly as `least`. -/
def binaryProduction (g : Grammar) (least : Nat) : Parser Expr := do
  let first ← operand g
  iterate first fun a => do
    match ← castTail? g least a with
    | some e => return some e
    | none =>
      match ← operator? with
      | none => return none
      | some (op, text) =>
        if op.precedence < least then return none
        else
          skip text
          let b ← g.binary (if op == .pow then op.precedence else op.precedence + 1)
          ensure (Expr.mayJoin op a b)
          return some (.binary op a b)

/-! ### Arrow functions -/

/-- What stands before the arrow. -/
structure ArrowHead where
  isAsync : Bool
  types : List String
  parameters : List Pattern
  /-- The result has a type. -/
  hasResult : Bool

/-- The sign of an arrow function, on the line of its parameters. -/
def arrowSign : Parser Unit := do
  ensure !(← newline)
  sign "=>"

/-- The head of an arrow function of one name. -/
def nameHead (isAsync : Bool) : Parser ArrowHead := do
  let s ← variableName
  ensure !(isAsync && s == "await")
  arrowSign
  return { isAsync, types := [], parameters := [.name s], hasResult := false }

/-- The head of an arrow function with parentheses. -/
def parenthesizedHead (g : Grammar) (isAsync : Bool) : Parser ArrowHead :=
  within (fun c => { c with isAsync := c.isAsync || isAsync }) do
    let types ← optionalTypeParameters g
    let (ps, more) ← parameters g false
    let hasResult ← atSign ":"
    let result ← resultAnnotation g
    arrowSign
    return { isAsync, types := types ++ more ++ result, parameters := ps, hasResult }

/-- What stands after the opening parenthesis may be the parameters of a function. -/
def mayOpenParameters : Parser Bool :=
  seems do
    sign "("
    match ← token with
    | .sign s => return [")", "...", "[", "\x7b", "@"].contains s
    | .name .. =>
      if ← atParameterModifier then return true
      else
        advance
        match ← token with
        | .sign s => return [",", "=", ")", "?", ":"].contains s
        | _ => return false
    | _ => return false

/-- What stands after the opening angle bracket are the parameters for types of a function, and no
element. -/
def opensTypeParameters : Parser Bool := do
  let c ← read
  if !c.hasTypes then return false
  else if !c.hasElements then atSign "<"
  else seems do
    sign "<"
    let _ ← takeWord "const"
    let _ ← variableName
    if ← takeWord "extends" then
      return !((← atSign "=") || (← atSign ">") || (← atSign "/"))
    else return (← atSign ",") || (← atSign "=")

/-- The head of an arrow function, if one is in front. -/
def arrowHead? (g : Grammar) : Parser (Option ArrowHead) := do
  if ← opensTypeParameters then attempt (parenthesizedHead g false)
  else if ← atSign "(" then
    if ← mayOpenParameters then attempt (parenthesizedHead g false) else return none
  else
    match ← attempt (nameHead false) with
    | some h => return some h
    | none =>
      if ← atWord "async" then
        attempt do
          advance
          ensure !(← newline)
          if ← atSign "(" <||> atSign "<" then parenthesizedHead g true else nameHead true
      else return none

/-- An arrow function after its sign. -/
def arrowTail (g : Grammar) (h : ArrowHead) : Parser Expr := do
  let inBody (c : Context) : Context := 
    { c with isAsync := h.isAsync, isGenerator := false, barsAwait := false }
  if ← atSign "\x7b" then
    let items ← within (inFunction h.isAsync false) (functionBody g)
    return .arrow (.mk none h.isAsync false h.types h.parameters .block items)
  else
    let e ← within inBody g.assignment
    return .arrow (.mk none h.isAsync false h.types h.parameters .value [.plain (.return (some e))])

/-- An arrow function, if one is in front.  Where a colon ends the expression, a type of the result
would take that colon, unless another one follows. -/
def arrow? (g : Grammar) : Parser (Option Expr) := do
  if !(← read).inChoice then
    match ← arrowHead? g with
    | none => return none
    | some h => some <$> arrowTail g h
  else
    attempt do
      match ← arrowHead? g with
      | none => failure
      | some h =>
        let e ← arrowTail g h
        if h.hasResult then ensure (← atSign ":")
        return e

/-! ### Expressions -/

/-- What a generator hands out, after the word `yield`. -/
def yieldTail (g : Grammar) : Parser Expr := do
  if ← newline then return .yield false none
  else if ← takeSign "*" then return .yield true (some (← g.assignment))
  else
    let ends ← match ← token with
      | .sign s => pure ([")", "]", "\x7d", ",", ";", ":"].contains s)
      | .name s _ => pure (s == "in")
      | .finish => pure true
      | _ => pure false
    if ends then return .yield false none else return .yield false (some (← g.assignment))

/-- A choice between two expressions, or the expression that stands where its test would. -/
def conditional (g : Grammar) : Parser Expr := do
  let marked := (← get).gap.pure
  let test ← binaryProduction g 0
  let e ← if ← takeSign "?" then
      let yes ← within (fun c => { c with allowIn := true, inChoice := true }) g.assignment
      sign ":"
      let no ← g.assignment
      pure (.conditional test yes no)
    else pure test
  return if marked then e.markPure else e

/-- The sign of an assignment in front: the operator in it, and its text. -/
def assignmentSign? : Parser (Option (Option BinaryOp × String)) := do
  match ← token with
  | .sign "=" => return some (none, "=")
  | .sign s =>
    let s ← if s == ">" then angle else pure s
    match s.toList.reverse with
    | '=' :: op =>
      match BinaryOp.ofText? (String.ofList op.reverse) with
      | some op => return if op.mayAssign then some (some op, s) else none
      | none => return none
    | _ => return none
  | _ => return none

/-- An assignment, or the expression that stands where its target would. -/
def assignmentOrLess (g : Grammar) : Parser Expr := do
  let owed := (← get).owesPattern
  modify ({ · with owesPattern := false })
  let e ← conditional g
  let sign? ← assignmentSign?
  let target? := match sign? with
    | none => none
    | some (none, _) => e.toTarget?
    | some (some _, _) => if e.isPlace then some (.target e) else none
  match sign?, target? with
  | none, _ =>
    modify fun s => { s with owesPattern := s.owesPattern || owed }
    return e
  | some _, none => failure
  | some (op, text), some target =>
    modify fun s => { s with owesPattern := (s.owesPattern && !e.isComposite) || owed }
    skip text
    return .assign op target (← g.assignment)

/-- An expression without a comma. -/
def assignmentProduction (g : Grammar) : Parser Expr := do
  if (← atWord "yield") && (← read).isGenerator then
    advance
    yieldTail g
  else
    match ← arrow? g with
    | some e => return e
    | none => assignmentOrLess g

/-- Expressions with commas between them. -/
def expressionProduction (g : Grammar) : Parser Expr := do
  let first ← g.assignment
  let rest ← repeatWhile do
    if ← takeSign "," then some <$> g.assignment else return none
  return if rest.isEmpty then first else .sequence (first :: rest)

end Parser

end StorySuite.Script
