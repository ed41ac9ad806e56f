import StorySuite.Script.Parser.Basic

/-!
# Script — types

The grammar of types.  What is left of a type is the list of names that it mentions.
-/

namespace StorySuite.Script.Parser

/-- The words that are types by themselves. -/
def plainTypes : List String := [
  "any", "unknown", "never", "void", "null", "undefined", "string", "number", "boolean", "symbol",
  "object", "bigint", "intrinsic", "this", "true", "false"]

/-- Lists of names in a row. -/
def concatNames (p : Parser (List (List String))) : Parser (List String) :=
  List.flatten <$> p

/-- Types between angle brackets. -/
def typeArguments (g : Grammar) : Parser (List String) := do
  ensure (← openAngle)
  concatNames do
    let first ← g.type
    let rest ← repeatWhile do
      if ← takeSign "," then
        if ← atSign ">" then return none else some <$> g.type
      else return none
    sign ">"
    return first :: rest

/-- Types between angle brackets, if there are any on the line. -/
def optionalTypeArguments (g : Grammar) : Parser (List String) := do
  match ← token with
  | .sign s =>
    if s.toList.head? == some '<' && !(← newline) then typeArguments g else return []
  | _ => return []

/-- A type after a colon, if there is one. -/
def optionalAnnotation (g : Grammar) : Parser (List String) := do
  if ← hasTypes <&&> takeSign ":" then g.type else return []

/-- A parameter of a type or of a class: its name, its bound and what it is by default. -/
def typeParameter (g : Grammar) : Parser (List String) := do
  let _ ← repeatWhile do
    if ← seems (do
        let s ← anyName
        let more ← atVariable <||> atWord "const" <||> atWord "in" <||> atWord "out"
        return ["const", "in", "out"].contains s && more) then
      some <$> anyName
    else return none
  let _ ← anyName
  let bound ← if ← takeWord "extends" then g.type else pure []
  let default ← if ← takeSign "=" then g.type else pure []
  return bound ++ default

/-- Parameters between angle brackets, if there are any. -/
def optionalTypeParameters (g : Grammar) : Parser (List String) := do
  if (← read).hasTypes && (← atSign "<") then
    advance
    let ps ← separated ">" (typeParameter g)
    ensure !ps.isEmpty
    return ps.flatten
  else return []

/-- The name of a member of a type. -/
def typeMemberName (g : Grammar) : Parser Unit := do
  match ← token with
  | .name .. | .string .. | .number _ | .bigint _ => advance
  | .sign "[" =>
    advance
    let _ ← g.expression
    sign "]"
  | _ => failure

/-- A parameter of the type of a function. -/
def signatureParameter (g : Grammar) : Parser (List String) := do
  let _ ← takeSign "..."
  if ← takeWord "this" then optionalAnnotation g
  else
    let _ ← g.pattern
    let _ ← takeSign "?"
    optionalAnnotation g

/-- A type that may also say what a call tells about its arguments. -/
def resultType (g : Grammar) : Parser (List String) := do
  let asserts ← seems do
    word "asserts"
    let named ← atVariable <||> atWord "this"
    return named && !(← newline)
  if asserts then
    advance
    let _ ← anyName
    if (← atWord "is") && !(← newline) then
      advance
      g.type
    else return []
  else
    let tells ← seems do
      let _ ← anyName
      return (← atWord "is") && !(← newline)
    if tells then
      advance
      advance
      g.type
    else g.type

/-- The parameters and the result of a signature; the result stands after `mark`. -/
def signatureTail (g : Grammar) (mark : String) (needsResult : Bool) : Parser (List String) := do
  let parameters ← optionalTypeParameters g
  sign "("
  let ps ← separated ")" (signatureParameter g)
  let result ← if ← takeSign mark then resultType g
    else do
      ensure !needsResult
      pure []
  return parameters ++ ps.flatten ++ result

/-- The end of a member of a type. -/
def typeMemberEnd : Parser Unit := do
  unless ← (takeSign ";" <||> takeSign ",") do
    let closed ← atSign "\x7d"
    ensure (closed || (← newline))

/-- The word `s` is in front, and a member's name follows. -/
def atModifier (s : String) : Parser Bool :=
  seems do
    word s
    match ← token with
    | .name .. | .string .. | .number _ | .privateName _ => return true
    | .sign t => return t == "["
    | _ => return false

/-- A type for all keys of a kind, in the type of an object. -/
def indexSignature (g : Grammar) : Parser (List String) := do
  sign "["
  let _ ← anyName
  sign ":"
  let key ← g.type
  sign "]"
  return key ++ (← optionalAnnotation g)

/-- A type for all keys of a kind begins here. -/
def atIndexSignature : Parser Bool :=
  seems do
    sign "["
    let _ ← anyName
    atSign ":"

/-- A member of the type of an object, up to its end. -/
def typeMemberFront (g : Grammar) : Parser (List String) := do
  if (← atSign "(") || (← atSign "<") then signatureTail g ":" false
  else if ← seems (do
      word "new"
      return (← atSign "(") || (← atSign "<")) then
    advance
    signatureTail g ":" false
  else
    if (← atModifier "readonly") || (← atModifier "get") || (← atModifier "set") then advance
    if ← atIndexSignature then indexSignature g
    else
      typeMemberName g
      let _ ← takeSign "?"
      if (← atSign "(") || (← atSign "<") then signatureTail g ":" false
      else optionalAnnotation g

/-- A member of the type of an object. -/
def typeMember (g : Grammar) : Parser (List String) := do
  let names ← typeMemberFront g
  typeMemberEnd
  return names

/-- The members of the type of an object. -/
def typeMembers (g : Grammar) : Parser (List String) := do
  sign "\x7b"
  concatNames (closedBy "\x7d" (typeMember g))

/-- The type of an object made from the keys of another. -/
def mappedType (g : Grammar) : Parser (List String) := do
  sign "\x7b"
  if ← (takeSign "+" <||> takeSign "-") then word "readonly"
  else
    let _ ← takeWord "readonly"
  sign "["
  let _ ← anyName
  word "in"
  let keys ← g.type
  let renamed ← if ← takeWord "as" then g.type else pure []
  sign "]"
  if ← (takeSign "+" <||> takeSign "-") then sign "?"
  else
    let _ ← takeSign "?"
  let values ← optionalAnnotation g
  let _ ← takeSign ";" <||> takeSign ","
  sign "\x7d"
  return keys ++ renamed ++ values

/-- A type made from the keys of another begins here. -/
def atMappedType : Parser Bool :=
  seems do
    sign "\x7b"
    let _ ← takeSign "+" <||> takeSign "-"
    if ← atModifier "readonly" then advance
    sign "["
    let _ ← anyName
    atWord "in"

/-- A member of the type of a list of fixed length. -/
def tupleMember (g : Grammar) : Parser (List String) := do
  let _ ← takeSign "..."
  let labeled ← seems do
    let _ ← anyName
    let _ ← takeSign "?"
    atSign ":"
  if labeled then
    advance
    let _ ← takeSign "?"
    sign ":"
  let names ← g.type
  let _ ← takeSign "?"
  return names

/-- Names after points. -/
def qualifiers : Parser (List String) :=
  repeatWhile do
    if ← takeSign "." then some <$> anyName else return none

/-- A template whose values are types; the first piece is in front. -/
def templateType (g : Grammar) : Parser (List String) := do
  match ← token with
  | .chunk _ true =>
    advance
    return []
  | .chunk _ false =>
    iterate (false, []) (fun (finished, names) => do
      if finished then return none
      else
        advance
        let more ← g.type
        ensure (← atSign "\x7d")
        let (t, rest) := Lexer.chunk (← read).fuel (← get).rest
        match t with
        | .chunk _ closed =>
          modify fun s => { s with token := t, rest }
          if closed then advance
          return some (closed, names ++ more)
        | _ => failure) >>= fun r => pure r.2
  | _ => failure

/-- The name of a type with the types given to it. -/
def typeReference (g : Grammar) : Parser (List String) := do
  let root ← variableName
  let _ ← qualifiers
  return root :: (← optionalTypeArguments g)

/-- What `import` and a text stand for in a type, after `import`. -/
def importType (g : Grammar) : Parser (List String) := do
  sign "("
  let argument ← g.type
  if ← takeSign "," then
    let _ ← g.expression
  sign ")"
  let _ ← qualifiers
  return argument ++ (← optionalTypeArguments g)

/-- A type can begin here. -/
def atType : Parser Bool := do
  match ← token with
  | .string .. | .number _ | .bigint _ | .chunk .. => return true
  | .sign s => return ["\x7b", "[", "<", "|", "&", "*", "?", "!", "...", "-", "("].contains s
  | .name s _ =>
    return plainTypes.contains s || ["typeof", "new", "import", "function"].contains s
      || !isReserved s
  | _ => return false

/-- The type of a lack of a type, or one that may be absent, after its mark. -/
def absentType (g : Grammar) : Parser (List String) := do
  match ← token with
  | .sign s => if [",", "\x7d", ")", ">", "=", "|"].contains s then return [] else g.type
  | _ => g.type

/-- A type without an operator. -/
def primaryType (g : Grammar) : Parser (List String) := do
  match ← token with
  | .string .. | .number _ | .bigint _ =>
    advance
    return []
  | .chunk .. => templateType g
  | .sign "-" =>
    advance
    match ← token with
    | .number _ | .bigint _ =>
      advance
      return []
    | _ => failure
  | .sign "?" =>
    advance
    absentType g
  | .sign "!" =>
    advance
    g.type
  | .sign "(" =>
    advance
    let names ← within ({ · with allowTypeChoice := true }) g.type
    sign ")"
    return names
  | .sign "[" =>
    advance
    concatNames (within ({ · with allowTypeChoice := true }) (separated "]" (tupleMember g)))
  | .sign "\x7b" =>
    within ({ · with allowTypeChoice := true }) do
      if ← atMappedType then mappedType g else typeMembers g
  | .name "typeof" false =>
    advance
    if ← takeWord "import" then importType g
    else
      let root ← anyName
      let _ ← qualifiers
      return root :: (← optionalTypeArguments g)
  | .name "import" false =>
    advance
    importType g
  | .name s _ =>
    let alone ← seems do
      advance
      return !(← atSign ".")
    if plainTypes.contains s && alone then
      advance
      return []
    else
      ensure !isReserved s
      advance
      let _ ← qualifiers
      return s :: (← optionalTypeArguments g)
  | _ => failure

/-- A type with what follows it: it is one of lists or one of members.  With the names that it
mentions comes whether it is one of lists. -/
def postfixType (g : Grammar) : Parser (List String × Bool) := do
  let isTuple ← atSign "["
  let first ← primaryType g
  iterate (first, isTuple) fun (names, _) => do
    if ← newline then return none
    else if ← takeSign "[" then
      if ← takeSign "]" then return some (names, true)
      else
        let key ← g.type
        sign "]"
        return some (names ++ key, false)
    else if ← takeSign "!" then return some (names, false)
    else if (← atSign "?") && !(← seems (do
        advance
        atType)) then
      advance
      return some (names, false)
    else return none

/-- A type with the operators in front of it; only one of lists can be read-only. -/
def operatorType (g : Grammar) : Parser (List String) := do
  let operators ← repeatWhile do
    if ← atAnyWord ["keyof", "unique", "readonly"] then
      let operator ← seems do
        advance
        match ← token with
        | .name .. | .string .. | .chunk .. => return true
        | .sign s => return ["[", "(", "\x7b"].contains s
        | _ => return false
      if operator then some <$> anyName else return none
    else return none
  ensure !(operators.dropLast.contains "readonly")
  let needsList := operators.getLast? == some "readonly"
  let infers ← seems do
    word "infer"
    atVariable
  if infers then
    ensure !needsList
    advance
    let _ ← anyName
    let bound ← attempt do
      word "extends"
      let names ← within ({ · with allowTypeChoice := false }) g.type
      ensure (!(← read).allowTypeChoice || !(← atSign "?"))
      return names
    return bound.getD []
  else
    let (names, isList) ← postfixType g
    ensure (!needsList || isList)
    return names

/-- Types with the sign `s` between them, and possibly one in front. -/
def typesBetween (s : String) (p : Parser (List String)) : Parser (List String) := do
  let _ ← takeSign s
  let first ← p
  let rest ← repeatWhile do
    if ← takeSign s then some <$> p else return none
  return first ++ rest.flatten

/-- The type of a function begins here. -/
def atFunctionType (g : Grammar) : Parser Bool := do
  if ← atSign "<" then return true
  else if ← atWord "new" then return true
  else if ← seems (do
      word "abstract"
      atWord "new") then return true
  else seems do
    sign "("
    let _ ← separated ")" (signatureParameter g)
    atSign "=>"

/-- A type. -/
def typeProduction (g : Grammar) : Parser (List String) := do
  if ← atFunctionType g then
    let _ ← takeWord "abstract"
    let _ ← takeWord "new"
    signatureTail g "=>" true
  else
    let names ← typesBetween "|" (typesBetween "&" (operatorType g))
    let choice ← atWord "extends"
    if choice && (← read).allowTypeChoice && !(← newline) then
      advance
      let bound ← within ({ · with allowTypeChoice := false }) g.type
      sign "?"
      let yes ← within ({ · with allowTypeChoice := true }) g.type
      sign ":"
      let no ← within ({ · with allowTypeChoice := true }) g.type
      return names ++ bound ++ yes ++ no
    else return names

end StorySuite.Script.Parser
