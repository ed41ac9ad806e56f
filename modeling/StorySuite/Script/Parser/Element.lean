import StorySuite.Script.Parser.Type

/-!
# Script — elements

Between the tags of an element there is text, which has no tokens: it is read from what follows the
`>` in front.  An element therefore ends with its last `>` still in front.
-/

namespace StorySuite.Script.Parser

/-- A name in a tag, which may hold hyphens. -/
def tagName : Parser String := do
  let cs := (← get).here
  ensure (cs.head?.any isNameStart)
  let s := cs.takeWhile fun c => isNamePart c || c == '-'
  goOn false (cs.drop s.length)
  return String.ofList s

/-- The name of an element. -/
def elementName : Parser ElementName := do
  let s ← tagName
  if ← takeSign ":" then return .namespaced s (← tagName)
  else if ← atSign "." then
    ensure !(s.toList.contains '-')
    return .member s (← repeatWhile do
      if ← takeSign "." then some <$> anyName else return none)
  else return .plain s

/-- The text between quotes, as it is written. -/
def quotedText : Parser String := do
  match (← get).here with
  | q :: cs =>
    ensure (q == '"' || q == '\'')
    let s := cs.takeWhile (· != q)
    ensure (s.length < cs.length)
    goOn false (cs.drop (s.length + 1))
    return String.ofList s
  | [] => failure

/-- The value of an attribute. -/
def attributeValue (g : Grammar) : Parser Expr := do
  match (← get).here with
  | '\x7b' :: _ =>
    advance
    let e ← g.assignment
    sign "\x7d"
    return e
  | '<' :: _ =>
    let e ← g.element
    sign ">"
    return e
  | _ => .elementText <$> quotedText

/-- An attribute of an element. -/
def tagAttribute (g : Grammar) : Parser Property := do
  if ← takeSign "\x7b" then
    sign "..."
    let e ← g.assignment
    sign "\x7d"
    return .spread e
  else
    let s ← tagName
    let s ← if ← takeSign ":" then
        let t ← tagName
        pure (s ++ ":" ++ t)
      else pure s
    if ← takeSign "=" then return .value (.name s) (← attributeValue g)
    else return .shorthand s

/-- Goes on to the text after the `>` or brace in front, and takes it. -/
def childText : Parser (List Expr) := do
  let cs := (← get).rest
  let s := cs.takeWhile fun c => c != '<' && c != '\x7b'
  ensure !(s.contains '>' || s.contains '\x7d')
  goOn false (cs.drop s.length)
  return if s.isEmpty then [] else [.elementText (String.ofList s)]

/-- A child in braces, up to the closing one. -/
def bracedChild (g : Grammar) : Parser Expr := do
  sign "\x7b"
  if ← atSign "\x7d" then return .hole
  else
    let e ← if ← takeSign "..." then .spread <$> g.assignment else g.assignment
    ensure (← atSign "\x7d")
    return e

/-- The tag in front closes an element. -/
def atClosingTag : Parser Bool :=
  seems do
    sign "<"
    atSign "/"

/-- The children of an element up to its closing tag; the `>` of the opening tag is in front. -/
def children (g : Grammar) : Parser (List Expr) := do
  let first ← childText
  let rest ← repeatWhile do
    if ← atClosingTag then return none
    else
      let e ← if ← atSign "\x7b" then bracedChild g else g.element
      return some (e :: (← childText))
  return first ++ rest.flatten

/-- An element; its last `>` stays in front. -/
def elementProduction (g : Grammar) : Parser Expr := do
  sign "<"
  if ← atSign ">" then
    let cs ← within (fun c => { c with inChoice := false, allowIn := true }) (children g)
    sign "<"
    sign "/"
    ensure (← atSign ">")
    return .element none [] [] cs
  else
    let name ← elementName
    let types ← if (← read).hasTypes && (← atSign "<") then typeArguments g else pure []
    let one : Parser (Option Property) := do
      if ← atSign ">" <||> atSign "/" then return none else some <$> tagAttribute g
    let attributes ← within (fun c => { c with inChoice := false, allowIn := true })
      (repeatWhile one)
    if ← takeSign "/" then
      ensure (← atSign ">")
      return .element (some name) types attributes []
    else
      let cs ← within (fun c => { c with inChoice := false, allowIn := true }) (children g)
      sign "<"
      sign "/"
      ensure ((← elementName) == name)
      ensure (← atSign ">")
      return .element (some name) types attributes cs

end StorySuite.Script.Parser
