import StorySuite.Script.Parser.Module

/-!
# Script — statements
-/

namespace StorySuite.Script.Parser

/-! ### Variables -/

/-- A variable with its value, which it has to have if `needed`. -/
def declared (g : Grammar) (needed : Bool) : Parser Pattern := do
  let p ← g.pattern
  if (← read).hasTypes then
    let _ ← takeSign "!"
  let types ← optionalAnnotation g
  let q := annotated p types
  if ← takeSign "=" then return .withDefault q (← g.assignment)
  else
    let isName := match p with
      | .name _ => true
      | _ => false
    ensure (!needed || (isName && (← read).isAmbient))
    return q

/-- Variables with commas between them. -/
def declaredAll (g : Grammar) (needed : Pattern → Bool) (always : Bool) :
    Parser (List Pattern) := do
  let one : Parser Pattern := do
    let p ← declared g always
    ensure !(needed p)
    return p
  let first ← one
  let rest ← repeatWhile do
    if ← takeSign "," then some <$> one else return none
  return first :: rest

/-- The pattern takes a value apart but is given none. -/
def lacksValue : Pattern → Bool
  | .array _ | .object _ | .typed (.array _) _ | .typed (.object _) _ => true
  | _ => false

/-- A variable of the kind has to have a value. -/
def needsValue : VariableKind → Bool
  | .var | .let => false
  | _ => true

/-- The declaration of variables that the words in front begin, if they do. -/
def variableKind? : Parser (Option VariableKind) := do
  let followed (sameLine : Bool) : Parser Bool := seems do
    advance
    let broken ← newline
    let of ← atWord "of"
    return (← atVariable) && !(sameLine && (broken || of))
  if ← atWord "var" then
    advance
    return some .var
  else if ← atWord "const" then
    if ← seems (do
        advance
        atWord "enum") then return none
    else
      advance
      return some .const
  else if ← atWord "let" then
    if ← seems (do
        advance
        atVariable <||> atSign "[" <||> atSign "\x7b") then
      advance
      return some .let
    else return none
  else if (← atWord "using") && (← followed true) then
    advance
    return some .using
  else if (← read).isAsync && (← seems (do
      word "await"
      word "using"
      let broken ← newline
      return (← atVariable) && !broken)) then
    ensure !(← read).barsAwait
    advance
    advance
    return some .awaitUsing
  else return none

/-- Variables after the word that declares them, up to the end of the statement. -/
def variablesTail (g : Grammar) (kind : VariableKind) : Parser Stmt := do
  let ps ← declaredAll g lacksValue (needsValue kind)
  semicolon
  return .declaration kind ps

/-! ### Loops and choices -/

/-- An expression in parentheses. -/
def condition (g : Grammar) : Parser Expr := do
  sign "("
  let e ← g.expression
  sign ")"
  return e

/-- The statement may stand where only one has its place. -/
def maySubordinate : Stmt → Bool
  | .class _ => false
  | .function (.mk _ isAsync isGenerator _ _ _ _) => !isAsync && !isGenerator
  | .declaration kind _ => kind == .var
  | _ => true

/-- A statement that is part of another one, without its comments.  There `let` is a name, unless a
list follows. -/
def substatement (g : Grammar) : Parser Stmt := do
  let named ← seems do
    word "let"
    return !(← atSign "[")
  if named then
    let e ← g.expression
    semicolon
    return .expr e
  else
    let s := (← g.statement).stmt
    ensure (maySubordinate s)
    return s

/-- The rest of a loop over keys or values, after its variable; nothing if it is no such loop. -/
def loopOver? (g : Grammar) (isAwait : Bool) (kind : Option VariableKind) (p : Pattern) :
    Parser (Option Stmt) := do
  if ← takeWord "of" then
    let e ← g.assignment
    sign ")"
    return some (.forOf isAwait kind p e (← substatement g))
  else if ← takeWord "in" then
    ensure (!isAwait && kind != some .using && kind != some .awaitUsing)
    let e ← g.expression
    sign ")"
    return some (.forIn kind p e (← substatement g))
  else return none

/-- The rest of a counting loop, after what it begins with. -/
def loopTail (g : Grammar) (init : Option Stmt) : Parser Stmt := do
  sign ";"
  let test ← if ← atSign ";" then pure none else some <$> g.expression
  sign ";"
  let step ← if ← atSign ")" then pure none else some <$> g.expression
  sign ")"
  return .forLoop init test step (← substatement g)

/-- A loop after the word `for`. -/
def forTail (g : Grammar) : Parser Stmt := do
  let isAwait ← takeWord "await"
  ensure (!isAwait || (← read).isAsync && !(← read).barsAwait)
  sign "("
  if ← atSign ";" then
    ensure !isAwait
    loopTail g none
  else
    match ← within ({ · with allowIn := false }) variableKind? with
    | some kind =>
      let ps ← within ({ · with allowIn := false })
        (declaredAll g (fun _ => false) false)
      let ranged ← match ps with
        | [p] => loopOver? g isAwait (some kind) p
        | _ => pure none
      match ranged with
      | some s => return s
      | none =>
        ensure (!isAwait && !ps.any lacksValue)
        if needsValue kind then
          ensure (ps.all fun
            | .withDefault .. => true
            | _ => false)
        loopTail g (some (.declaration kind ps))
    | none =>
      let owed := (← get).owesPattern
      modify ({ · with owesPattern := false })
      let e ← within ({ · with allowIn := false }) g.expression
      if (← atWord "of") || (← atWord "in") then
        let isAsyncName := match e with
          | .name s => s == "async"
          | _ => false
        ensure !(isAsyncName && !isAwait && (← atWord "of"))
        match e.toTarget? with
        | none => failure
        | some p =>
          modify fun s => { s with owesPattern := (s.owesPattern && !e.isComposite) || owed }
          match ← loopOver? g isAwait none p with
          | some s => return s
          | none => failure
      else
        ensure !isAwait
        modify fun s => { s with owesPattern := s.owesPattern || owed }
        loopTail g (some (.expr e))

/-- Statements in braces. -/
def block (g : Grammar) : Parser (List Item) := do
  sign "\x7b"
  closedBy "\x7d" g.statement

/-- A case of a switch. -/
def switchCase (g : Grammar) : Parser Item := do
  let cs ← comments
  let test ← if ← takeWord "default" then pure none
    else do
      word "case"
      some <$> g.expression
  sign ":"
  let items ← repeatWhile do
    if (← atAnyWord ["case", "default"]) || (← atSign "\x7d") then return none
    else some <$> g.statement
  return .mk cs (.case test items)

/-- What is done with an exception, after the word `catch`. -/
def handlerTail (g : Grammar) : Parser Stmt := do
  let p ← if ← takeSign "(" then do
      let p ← g.pattern
      let p := annotated p (← optionalAnnotation g)
      sign ")"
      pure p
    else pure .hole
  return .handler p (← block g)

/-- A guarded block after the word `try`. -/
def tryTail (g : Grammar) : Parser Stmt := do
  let items ← block g
  let handler ← if ← takeWord "catch" then some <$> handlerTail g else pure none
  let finalizer ← if ← takeWord "finally" then (some ∘ Stmt.block) <$> block g else pure none
  ensure (handler.isSome || finalizer.isSome)
  return .tryBlock items handler finalizer

/-- A label to jump to, on the same line, up to the end of the statement. -/
def jumpLabel : Parser (Option String) := do
  let named ← atVariable
  let label ← if named && !(← newline) then some <$> anyName else pure none
  semicolon
  return label

/-- The statement that a word in front begins, if it begins one that no declaration is. -/
def wordStatement? (g : Grammar) (s : String) : Parser (Option Stmt) := do
  match s with
  | "if" =>
    advance
    let test ← condition g
    let yes ← substatement g
    let no ← if ← takeWord "else" then some <$> substatement g else pure none
    return some (.choice test yes no)
  | "for" =>
    advance
    some <$> forTail g
  | "while" =>
    advance
    let test ← condition g
    return some (.whileLoop test (← substatement g))
  | "do" =>
    advance
    let s ← substatement g
    word "while"
    let test ← condition g
    let _ ← takeSign ";"
    return some (.doWhile s test)
  | "return" =>
    ensure (← read).inFunction
    advance
    let ends ← (attempt semicolon)
    if ends.isSome then return some (.return none)
    else
      let e ← g.expression
      semicolon
      return some (.return (some e))
  | "throw" =>
    advance
    ensure !(← newline)
    let e ← g.expression
    semicolon
    return some (.throw e)
  | "break" =>
    advance
    return some (.break (← jumpLabel))
  | "continue" =>
    advance
    return some (.continue (← jumpLabel))
  | "switch" =>
    advance
    let e ← condition g
    sign "\x7b"
    return some (.switch e (← closedBy "\x7d" (switchCase g)))
  | "try" =>
    advance
    some <$> tryTail g
  | "with" =>
    advance
    let e ← condition g
    return some (.withScope e (← substatement g))
  | "debugger" =>
    advance
    semicolon
    return some .debugger
  | _ => return none

/-! ### Declarations -/

/-- The type that a word declares, after the word. -/
def typeAliasTail (g : Grammar) : Parser Stmt := do
  let name ← variableName
  let parameters ← optionalTypeParameters g
  sign "="
  let names ← g.type
  semicolon
  return .typeName name (parameters ++ names)

/-- The type of objects that is declared after the word `interface`. -/
def interfaceTail (g : Grammar) : Parser Stmt := do
  let name ← variableName
  let parameters ← optionalTypeParameters g
  let parents ← if ← takeWord "extends" then
      concatNames do
        let first ← typeReference g
        let rest ← repeatWhile do
          if ← takeSign "," then some <$> typeReference g else return none
        return first :: rest
    else pure []
  return .typeName name (parameters ++ parents ++ (← typeMembers g))

/-- A member of an enumeration. -/
def enumMember (g : Grammar) : Parser Property := do
  let name ← match ← token with
    | .string t _ => do
      advance
      pure t.value
    | .sign "[" => do
      advance
      let t ← stringValue
      sign "]"
      pure t.value
    | _ => anyName
  if ← takeSign "=" then return .value (.name name) (← g.assignment)
  else return .shorthand name

/-- An enumeration after the word `enum`. -/
def enumTail (g : Grammar) : Parser Stmt := do
  let name ← variableName
  sign "\x7b"
  return .enum name (← separated "\x7d" (enumMember g))

/-- A namespace after its word. -/
def namespaceTail (g : Grammar) : Parser Stmt := do
  let (path, isExternal) ← match ← token with
    | .string t _ => do
      advance
      pure ([t.value], true)
    | _ => do
      let root ← anyName
      pure (root :: (← qualifiers), false)
  if ← atSign "\x7b" then
    return .namespace path (← within ({ · with inFunction := false }) (block g))
  else
    ensure isExternal
    semicolon
    return .namespace path []

/-- A name follows the word in front on its line. -/
def namesNext (alsoText : Bool) : Parser Bool :=
  seems do
    advance
    match ← token with
    | .name s _ => return mayName (← read) s && !(← newline)
    | .string .. => return alsoText && !(← newline)
    | _ => return false

/-- The words that may follow `declare`. -/
def declarationWords : List String := [
  "var", "let", "const", "function", "class", "abstract", "enum", "type", "interface", "namespace",
  "module", "global", "async", "using", "import"]

/-- The declaration of a type, or of values by the rules of types, if one is in front. -/
def typedDeclaration? (g : Grammar) : Parser (Option Stmt) := do
  if !(← read).hasTypes then return none
  else
    match ← token with
    | .name "type" false =>
      if ← namesNext false then
        advance
        some <$> typeAliasTail g
      else return none
    | .name "interface" false =>
      if ← namesNext false then
        advance
        some <$> interfaceTail g
      else return none
    | .name "enum" false =>
      advance
      some <$> enumTail g
    | .name "const" false =>
      if ← seems (do
          advance
          atWord "enum") then
        advance
        advance
        some <$> enumTail g
      else return none
    | .name "namespace" false | .name "module" false =>
      let named ← atWord "module"
      if ← namesNext named then
        advance
        some <$> namespaceTail g
      else return none
    | .name "global" false =>
      if (← read).isAmbient && (← seems (do
          advance
          atSign "\x7b")) then some <$> namespaceTail g
      else return none
    | .name "abstract" false =>
      if ← seems (do
          advance
          return (← atWord "class") && !(← newline)) then
        advance
        advance
        return some (.class (← classAfterWord g []))
      else return none
    | _ => return none

/-- A declaration, if one is in front. -/
def declaration? (g : Grammar) (ds : List Expr) : Parser (Option Stmt) := do
  match ← typedDeclaration? g with
  | some s =>
    match s with
    | .class (.mk _ name types parent members) =>
      return some (.class (.mk ds name types parent members))
    | s => return some s
  | none =>
    match ← variableKind? with
    | some kind => some <$> variablesTail g kind
    | none =>
      if ← takeWord "function" then return some (.function (← functionAfterWord g false false true))
      else if ← atAsyncFunction then
        advance
        advance
        return some (.function (← functionAfterWord g true false true))
      else if ← takeWord "class" then return some (.class (← classAfterWord g ds))
      else return none

/-- A declaration, with the word that makes it one of something defined elsewhere, if one is in
front. -/
def anyDeclaration? (g : Grammar) (ds : List Expr) : Parser (Option Stmt) := do
  let ambient ← seems do
    word "declare"
    return (← atAnyWord declarationWords) && !(← newline)
  if ambient && (← read).hasTypes then
    advance
    within ({ · with isAmbient := true }) do
      match ← declaration? g ds with
      | some s => return some (.ambient s)
      | none => failure
  else declaration? g ds

/-- The decorators in front, which may stand here if there are none among `ds`. -/
def moreDecorators (g : Grammar) (ds : List Expr) : Parser (List Expr) := do
  let more ← decorators g
  ensure (ds.isEmpty || more.isEmpty)
  return ds ++ more

/-- The statement declares a class. -/
def declaresClass : Stmt → Bool
  | .class _ | .ambient (.class _) => true
  | _ => false

/-- The default export after its word. -/
def defaultTail (g : Grammar) (ds : List Expr) : Parser Stmt := do
  let ds ← moreDecorators g ds
  if ← takeWord "function" then
    ensure ds.isEmpty
    return .function (← functionAfterWord g false false false)
  else if ← atAsyncFunction then
    ensure ds.isEmpty
    advance
    advance
    return .function (← functionAfterWord g true false false)
  else if ← takeWord "class" then return .class (← classAfterWord g ds)
  else
    let typed := (← read).hasTypes
    let abstract ← seems do
      word "abstract"
      return (← atWord "class") && !(← newline)
    if typed && abstract then
      advance
      advance
      return .class (← classAfterWord g ds)
    else if typed && (← atWord "interface") && (← namesNext false) then
      advance
      interfaceTail g
    else
      ensure ds.isEmpty
      let e ← g.assignment
      semicolon
      return .expr e

/-- An export after its word. -/
def exportTail (g : Grammar) (ds : List Expr) : Parser Stmt := do
  if ← takeWord "default" then return .exportDefault (← defaultTail g ds)
  else
    match ← exportClause? with
    | some s =>
      ensure ds.isEmpty
      return s
    | none =>
      let typed := (← read).hasTypes
      if ← pure typed <&&> takeSign "=" then
        let e ← g.expression
        semicolon
        return .exportAssignment e
      else if ← pure typed <&&> takeWord "import" then return .exportDeclaration (← importTail)
      else if typed && (← seems (do
          word "type"
          atVariable)) then
        advance
        return .exportDeclaration (← typeAliasTail g)
      else
        let isUsing ← atWord "using"
        ensure !isUsing
        let ds ← moreDecorators g ds
        match ← anyDeclaration? g ds with
        | some s =>
          ensure (ds.isEmpty || declaresClass s)
          return .exportDeclaration s
        | none => failure

/-! ### Statements -/

/-- An import is in front, and no expression that begins with its word. -/
def atImport : Parser Bool :=
  seems do
    word "import"
    return !(← atSign "(") && !(← atSign ".")

/-- A label is in front. -/
def atLabel : Parser Bool :=
  seems do
    let _ ← variableName
    atSign ":"

/-- A statement that is no declaration. -/
def plainStatement (g : Grammar) : Parser Stmt := do
  let found ← match ← token with
    | .name s false => wordStatement? g s
    | _ => pure none
  match found with
  | some s => return s
  | none =>
    if ← atLabel then
      let label ← variableName
      sign ":"
      return .labeled label (← substatement g)
    else
      ensure !(← atAnyWord ["function", "class", "export"])
      let e ← g.expression
      semicolon
      return .expr e

/-- A statement without the comments in front of it. -/
def statementBody (g : Grammar) : Parser Stmt := do
  if ← takeSign ";" then return .empty
  else if ← atSign "\x7b" then return .block (← block g)
  else
    let ds ← decorators g
    if ← takeWord "export" then exportTail g ds
    else if ds.isEmpty && (← atImport) then
      advance
      importTail
    else
      match ← anyDeclaration? g ds with
      | some s =>
        ensure (ds.isEmpty || declaresClass s)
        return s
      | none =>
        ensure ds.isEmpty
        plainStatement g

/-- A statement with the comments in front of it. -/
def statementProduction (g : Grammar) : Parser Item := do
  let cs ← comments
  within (fun c => { c with allowIn := true, inChoice := false, allowTypeChoice := true }) do
    return .mk cs (← statementBody g)

end StorySuite.Script.Parser
