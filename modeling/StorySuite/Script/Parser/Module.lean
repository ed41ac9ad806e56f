import StorySuite.Script.Parser.Expression

/-!
# Script — imports and exports
-/

namespace StorySuite.Script

namespace ImportKind

/-- An import of the kind may declare these. -/
def mayDeclare : ImportKind → List ImportBinding → Bool
  | .values, _ | .types, _ => true
  | .source, [.default _] | .deferred, [.namespace _] => true
  | .source, _ | .deferred, _ => false

end ImportKind

namespace Parser

/-- The name of an import or export. -/
def moduleName : Parser ModuleName := do
  match ← token with
  | .string t _ =>
    ensure !t.lone
    advance
    return { text := t.value, quoted := true }
  | _ => return { text := ← anyName }

/-- What is said about an imported module, if anything is. -/
def importAttributes? : Parser (Option (List (ModuleName × StringValue))) := do
  if ← takeWord "with" <||> (not <$> newline <&&> takeWord "assert") then
    sign "\x7b"
    let attributes ← separated "\x7d" do
      let key ← moduleName
      sign ":"
      return (key, ← stringValue)
    ensure (decide (attributes.map (·.1.text)).Nodup)
    return some attributes
  else return none

/-- Where names come from, up to the end of the statement. -/
def moduleSource : Parser ModuleSource := do
  let text ← stringValue
  let attributes ← importAttributes?
  semicolon
  return { text, attributes }

/-- The word `type` in front makes the name after it one of a type. -/
def takeTypeMark : Parser Bool := do
  if !(← read).hasTypes then return false
  else
    let atName : Parser Bool := do
      match ← token with
      | .name .. | .string .. => return true
      | _ => return false
    let marks ← seems do
      word "type"
      if ← takeWord "as" then
        if ← takeWord "as" then atName else return !(← atName)
      else atName
    if marks then advance
    return marks

/-- A name in the braces of an import; in one of types no name is marked again. -/
def namedImport (kind : ImportKind) : Parser ImportBinding := do
  let typeOnly ← takeTypeMark
  ensure !(typeOnly && kind == .types)
  let imported ← moduleName
  if ← takeWord "as" then return .named imported (← variableName) typeOnly
  else
    ensure (!imported.quoted && mayName (← read) imported.text)
    return .named imported imported.text typeOnly

/-- What an import declares, up to the word before its source. -/
def importBindings (kind : ImportKind) : Parser (List ImportBinding) := do
  let first ← if ← atVariable then do
      let s ← variableName
      pure [ImportBinding.default s]
    else pure []
  let more ← if first.isEmpty then pure true else takeSign ","
  if !more then return first
  else if ← takeSign "*" then
    word "as"
    return first ++ [.namespace (← variableName)]
  else
    sign "\x7b"
    return first ++ (← separated "\x7d" (namedImport kind))

/-- The word `type` in front makes an import one of types. -/
def takeImportTypeMark : Parser Bool := do
  if !(← read).hasTypes then return false
  else
    let marks ← seems do
      word "type"
      match ← token with
      | .sign s => return s == "\x7b" || s == "*"
      | .name "from" _ =>
        advance
        return (← atWord "from") || (← atSign "=")
      | .name .. => return true
      | _ => return false
    if marks then advance
    return marks

/-- The word in front that makes an import one of a kind. -/
def takeImportKind : Parser ImportKind := do
  if ← takeImportTypeMark then return .types
  else
    let isSource ← seems do
      word "source"
      let from? ← atWord "from"
      let _ ← variableName
      return !from? || (← atWord "from")
    let isDeferred ← seems do
      word "defer"
      atSign "*"
    if isSource || isDeferred then advance
    return if isSource then .source else if isDeferred then .deferred else .values

/-- What an alias stands for, up to the end of the statement. -/
def aliasTarget : Parser AliasTarget := do
  let external ← seems do
    word "require"
    atSign "("
  let target ← if external then do
      advance
      sign "("
      let t ← stringValue
      sign ")"
      pure (AliasTarget.external t)
    else do
      let root ← anyName
      pure (AliasTarget.path root (← qualifiers))
  semicolon
  return target

/-- An import after the word. -/
def importTail : Parser Stmt := do
  match ← token with
  | .string .. => return .import .values none (← moduleSource)
  | _ =>
    let kind ← takeImportKind
    let isAlias ← seems do
      let _ ← variableName
      atSign "="
    if isAlias then
      ensureTypes
      let s ← variableName
      sign "="
      return .importAlias (kind == .types) s (← aliasTarget)
    else
      let bindings ← importBindings kind
      ensure (kind.mayDeclare bindings)
      word "from"
      return .import kind (some bindings) (← moduleSource)

/-- A name in the braces of an export. -/
def exportBinding : Parser ExportBinding := do
  let typeOnly ← takeTypeMark
  let name ← moduleName
  let exported ← if ← takeWord "as" then moduleName else pure name
  return { name, exported, typeOnly }

/-- Exported names after the opening brace. -/
def exportNamesTail (typeOnly : Bool) : Parser Stmt := do
  let bindings ← separated "\x7d" exportBinding
  ensure !(typeOnly && bindings.any (·.typeOnly))
  if ← takeWord "from" then return .exportNames typeOnly bindings (some (← moduleSource))
  else
    ensure (bindings.all fun b =>
      !b.name.quoted && !isReserved b.name.text && b.name.text != "await" && b.name.text != "yield")
    semicolon
    return .exportNames typeOnly bindings none

/-- An export of all names after the star. -/
def exportAllTail (typeOnly : Bool) : Parser Stmt := do
  let as ← if ← takeWord "as" then some <$> moduleName else pure none
  word "from"
  return .exportAll typeOnly as (← moduleSource)

/-- The exports that are no declarations, after the word `export`; nothing where there is none. -/
def exportClause? : Parser (Option Stmt) := do
  if ← takeSign "\x7b" then some <$> exportNamesTail false
  else if ← takeSign "*" then some <$> exportAllTail false
  else if !(← read).hasTypes then return none
  else if ← seems (do
      word "type"
      return (← atSign "\x7b") || (← atSign "*")) then
    advance
    if ← takeSign "\x7b" then some <$> exportNamesTail true
    else
      advance
      some <$> exportAllTail true
  else if ← seems (do
      word "as"
      atWord "namespace") then
    advance
    advance
    let s ← anyName
    semicolon
    return some (.exportAsNamespace s)
  else return none

end Parser

end StorySuite.Script
