import StorySuite.Script.Parser.Pattern

/-!
# Script — functions and classes
-/

namespace StorySuite.Script.Parser

/-- The arguments of a call, after the opening parenthesis. -/
def argumentList (g : Grammar) : Parser (List Expr) :=
  within (fun c => { c with allowIn := true, inChoice := false }) <| separated ")" do
    if ← takeSign "..." then return .spread (← g.assignment)
    else g.assignment

/-- What a decorator applies: a variable or an expression in parentheses, with members and calls. -/
def decorator (g : Grammar) : Parser Expr := do
  let root ← if ← takeSign "(" then
      let e ← g.expression
      sign ")"
      pure (.paren e)
    else Expr.name <$> variableName
  iterate root fun e => do
    if ← takeSign "." then
      match ← token with
      | .privateName s =>
        advance
        return some (.privateMember e s false)
      | _ => return some (.member e (← anyName) false)
    else if ← takeSign "(" then return some (.call e [] (← argumentList g) false false)
    else if (← read).hasTypes && (← atSign "<") then
      let types ← typeArguments g
      sign "("
      return some (.call e types (← argumentList g) false false)
    else return none

/-- The decorators in front. -/
def decorators (g : Grammar) : Parser (List Expr) :=
  repeatWhile do
    if ← takeSign "@" then some <$> decorator g else return none

/-- The words that make a parameter a property. -/
def parameterModifiers : List String :=
  ["public", "private", "protected", "readonly", "override"]

/-- A word of a parameter that makes it a property is in front. -/
def atParameterModifier : Parser Bool := do
  if !(← read).hasTypes then return false
  else seems do
    ensure (← atAnyWord parameterModifiers)
    advance
    match ← token with
    | .name s _ => return s != "this"
    | .sign s => return s == "\x7b" || s == "["
    | _ => return false

/-- A pattern with the names that its type mentions. -/
def annotated (p : Pattern) (types : List String) : Pattern :=
  if types.isEmpty then p else .typed p types

/-- A parameter. -/
def parameter (g : Grammar) : Parser Pattern := do
  let ds ← decorators g
  let modifiers ← repeatWhile do
    if ← atParameterModifier then some <$> advance else return none
  let rest ← takeSign "..."
  let p ← g.pattern
  if (← read).hasTypes && !rest then
    let _ ← takeSign "?"
  let p := annotated p (← optionalAnnotation g)
  let p ← if rest then do
      ensure (← atSign ")")
      pure (Pattern.rest p)
    else if ← takeSign "=" then
      Pattern.withDefault p <$> within (fun c => { c with allowIn := true }) g.assignment
    else pure p
  return if ds.isEmpty && modifiers.isEmpty then p else .parameter ds (!modifiers.isEmpty) p

/-- Parameters in parentheses, and the names that the type of `this` mentions; that type stands
first, where `typesThis`. -/
def parameters (g : Grammar) (typesThis : Bool) : Parser (List Pattern × List String) := do
  sign "("
  let types ← if ← hasTypes <&&> takeWord "this" then do
      ensure typesThis
      let types ← optionalAnnotation g
      unless ← atSign ")" do sign ","
      pure types
    else pure []
  let ps ← within (fun c => { c with inChoice := false }) (separated ")" (parameter g))
  return (ps, types)

/-- The token in front cannot go on with an expression on the line before. -/
def atNewStatement : Parser Bool := do
  match ← token with
  | .sign s =>
    let opening := ["\x7b", "!", "~", "++", "--", "@"]
    return [";", "\x7d"].contains s || ((← newline) && opening.contains s)
  | .finish => return true
  | .chunk .. => return false
  | .name s _ => return (← newline) && !(["in", "instanceof", "as", "satisfies"].contains s)
  | _ => newline

/-- A directive, if one is in front. -/
def directive? : Parser (Option Item) := do
  match ← token with
  | .string _ raw =>
    if ← seems (do
        advance
        atNewStatement) then
      let cs ← comments
      advance
      semicolon
      return some (.mk cs (.directive (String.ofList (raw.toList.drop 1).dropLast)))
    else return none
  | _ => return none

/-- Statements up to `finished`, the first ones being directives where they can. -/
def body (g : Grammar) (finished : Parser Bool) : Parser (List Item) := do
  let ds ← repeatWhile directive?
  let items ← repeatWhile do
    if ← finished then return none else some <$> g.statement
  let cs ← comments
  return ds ++ items ++ if cs.isEmpty then [] else [.mk cs .ending]

/-- The context in the body of a function. -/
def inFunction (isAsync isGenerator : Bool) (c : Context) : Context :=
  { c with
    isAsync, isGenerator
    barsAwait := false
    inFunction := true
    allowIn := true
    inChoice := false
    allowTypeChoice := true }

/-- Statements in braces, as the body of a function. -/
def functionBody (g : Grammar) : Parser (List Item) := do
  sign "\x7b"
  let items ← body g (atSign "\x7d")
  advance
  return items

/-- The result of a function after a colon, if it is given. -/
def resultAnnotation (g : Grammar) : Parser (List String) := do
  if ← hasTypes <&&> takeSign ":" then resultType g else return []

/-- A function from its parameters on; where `signature` admits it, the body may be missing.  One
that makes objects neither has parameters for types nor gives `this` one. -/
def functionTail (g : Grammar) (name : Option String)
    (makesObjects isAsync isGenerator signature : Bool) : Parser Function :=
  within (inFunction isAsync isGenerator) do
    ensure !(makesObjects && (← atSign "<"))
    let types ← optionalTypeParameters g
    let (ps, more) ← parameters g !makesObjects
    let result ← resultAnnotation g
    let types := types ++ more ++ result
    if (← atSign "\x7b") && !((← read).isAmbient && signature) then
      let items ← within ({ · with isAmbient := false }) (functionBody g)
      return .mk name isAsync isGenerator types ps .block items
    else
      ensure (signature && (← read).hasTypes)
      semicolon
      return .mk name isAsync isGenerator types ps .missing []

/-- A function after the word `function`; an expression's own name follows its own body's rules. -/
def functionAfterWord (g : Grammar) (isAsync isExpression needsName : Bool) : Parser Function := do
  let isGenerator ← takeSign "*"
  let nameContext (c : Context) : Context :=
    if isExpression then { c with isAsync, isGenerator } else c
  let name ← if ← atSign "(" <||> atSign "<" then
      ensure (isExpression || !needsName)
      pure none
    else do
      match ← token with
      | .name s _ =>
        ensure (mayName (nameContext (← read)) s)
        advance
        pure (some s)
      | _ => failure
  functionTail g name false isAsync isGenerator (!isExpression)

/-- The names that the parameters' types mention. -/
def parameterTypes (ps : List Pattern) : List String :=
  ps.flatMap fun
    | .typed _ names | .withDefault (.typed _ names) _ | .rest (.typed _ names)
    | .parameter _ _ (.typed _ names) => names
    | _ => []

/-- The word may stand in front of the name of a member, behind those that do already. -/
def mayFollow (earlier : List String) (s : String) : Bool :=
  let later := ["override", "static", "accessor", "readonly", "async"]
  let others := match s with
    | "public" | "private" | "protected" => "public" :: "private" :: "protected" :: later
    | "static" => later
    | "override" => ["override", "readonly", "accessor", "async"]
    | "abstract" => ["abstract", "override", "accessor"]
    | s => [s]
  !others.any earlier.contains

/-- What stands in front of the name of a member. -/
structure Modifiers where
  /-- The words, last first. -/
  words : List String := []
  isStatic : Bool := false
  isAsync : Bool := false
  isAccessor : Bool := false
  /-- The member is declared here and defined elsewhere or nowhere. -/
  isDeclared : Bool := false
  isAbstract : Bool := false
  kind : MethodKind := .method

namespace Modifiers

/-- With one more word in front of the name; none if it is no such word. -/
def add? (m : Modifiers) (hasTypes : Bool) : String → Option Modifiers
  | "static" => if m.isStatic then none else some { m with isStatic := true }
  | "async" => some { m with isAsync := true }
  | "accessor" => some { m with isAccessor := true }
  | "get" => some { m with kind := .getter }
  | "set" => some { m with kind := .setter }
  | s =>
    if !hasTypes then none
    else if s == "declare" then some { m with isDeclared := true }
    else if s == "abstract" then some { m with isAbstract := true }
    else if parameterModifiers.contains s then some m
    else none

end Modifiers

/-- The name of a member, after a word before it, begins here; `sameLine` where it must not begin on
a new line. -/
def atMemberName (sameLine : Bool) : Parser Bool := do
  if sameLine && (← newline) then return false
  else
    match ← token with
    | .name .. | .string .. | .number _ | .bigint _ | .privateName _ => return true
    | .sign s => return s == "[" || s == "*" || s == "\x7b"
    | _ => return false

/-- The words in front of the name of a member. -/
def modifiers : Parser Modifiers := do
  iterate {} fun m => do
    match ← token with
    | .name s false =>
      match m.add? (← read).hasTypes s with
      | none => return none
      | some m' =>
        let follows ← seems do
          advance
          let opens ← atSign "\x7b"
          let named ← atMemberName (!(["static", "get", "set"].contains s))
          return named && (!opens || s == "static")
        if follows && m.kind == .method then
          if s == "static" && (← seems (do
              advance
              atSign "\x7b")) then return none
          else
            ensure (mayFollow m.words s)
            advance
            return some { m' with words := s :: m.words }
        else return none
    | _ => return none

/-- A getter has no parameter and a setter one, in a dialect with types always with a value. -/
def hasArity (kind : MethodKind) (hasTypes : Bool) (ps : List Pattern) : Bool :=
  match kind, ps with
  | .getter, [] => true
  | .getter, _ => false
  | .setter, [.rest _] => false
  | .setter, [.withDefault ..] => !hasTypes
  | .setter, [_] => true
  | .setter, _ => false
  | _, _ => true

/-- The method of a class or an object, from its parameters on. -/
def methodTail (g : Grammar) (kind : MethodKind) (isAsync isGenerator signature : Bool) :
    Parser Function := do
  let f ← functionTail g none (kind == .constructor) isAsync isGenerator signature
  let .mk _ _ _ _ ps _ _ := f
  ensure (hasArity kind (← read).hasTypes ps)
  return f

/-- The key is the word `s`. -/
def isKey (s : String) : PropertyKey → Bool
  | .name t => t == s
  | .string t => t.value == s
  | _ => false

/-- A class may have such a member under the key. -/
def Modifiers.allow (m : Modifiers) (isGenerator isMethod : Bool) : PropertyKey → Bool
  | .privateName s => s != "constructor"
  | key =>
    !(m.isStatic && isKey "prototype" key) &&
      (!isKey "constructor" key ||
        isMethod && (m.isStatic || !m.isAsync && !isGenerator && m.kind == .method))

/-- A member of a class. -/
def member (g : Grammar) : Parser Member := do
  let cs ← comments
  let ds ← decorators g
  let m ← modifiers
  if (← atWord "static") && (← seems (do
      advance
      atSign "\x7b")) then
    advance
    let items ← within (fun c => { inFunction true false c with inFunction := false })
      (functionBody g)
    return .block cs items
  else if (← read).hasTypes && (← atIndexSignature) then
    let types ← indexSignature g
    semicolon
    return .signature types
  else
    let isGenerator ← takeSign "*"
    let key ← match ← token with
      | .privateName s => do
        advance
        pure (.privateName s)
      | _ => propertyKey g
    if (← read).hasTypes then
      let _ ← takeSign "?" <||> takeSign "!"
    let isMethod ← atSign "(" <||> atSign "<"
    ensure (m.allow isGenerator isMethod key)
    if isMethod then
      let kind := if m.kind == .method && !m.isStatic && isKey "constructor" key
        then .constructor else m.kind
      let f ← methodTail g kind m.isAsync isGenerator true
      let .mk _ _ _ types ps form _ := f
      if form == .missing then return .signature (types ++ parameterTypes ps)
      else return .method cs ds m.isStatic kind key f
    else
      ensure (!m.isAsync && !isGenerator && m.kind == .method)
      let types ← optionalAnnotation g
      let value ← if ← takeSign "=" then
          some <$> within (inFunction false false) g.assignment
        else pure none
      semicolon
      if m.isAbstract then return .signature types
      else return .field cs ds m.isStatic m.isAccessor m.isDeclared key types value

/-- What a class extends, and the names that the types given to it mention. -/
def heritage (g : Grammar) : Parser (Option Expr × List String) := do
  if ← takeWord "extends" then
    let e ← g.unary
    let types ← if (← read).hasTypes then optionalTypeArguments g else pure []
    return (some e, types)
  else return (none, [])

/-- The types that a class says it has. -/
def implementsTypes (g : Grammar) : Parser (List String) := do
  if ← hasTypes <&&> takeWord "implements" then
    concatNames do
      let first ← typeReference g
      let rest ← repeatWhile do
        if ← takeSign "," then some <$> typeReference g else return none
      return first :: rest
  else return []

/-- A class after the word `class`. -/
def classAfterWord (g : Grammar) (ds : List Expr) : Parser Class := do
  let isName ← seems do
    let s ← variableName
    return !(s == "implements" && !(← atSign "\x7b"))
  let name ← if isName then some <$> variableName else pure none
  let types ← optionalTypeParameters g
  let (parent, more) ← heritage g
  let implemented ← implementsTypes g
  sign "\x7b"
  let members ← closedBy "\x7d" do
    if ← takeSign ";" then return none else some <$> member g
  return .mk ds name (types ++ more ++ implemented) parent (members.filterMap id)

end StorySuite.Script.Parser
