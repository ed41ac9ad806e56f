import StorySuite.Script.Lexer

/-!
# Script — parsers

A parser looks at the token in front and at what may stand here, and either fails or gives a result
and goes on.  A parser that fails leaves nothing behind, so another one can be tried at the same
place.

The productions of the grammar call each other only through a `Grammar`, which bounds how deep they
do; within one production the length of the program bounds every repetition.
-/

namespace StorySuite.Script

/-- What may stand at a place. -/
structure Context where
  /-- No repetition takes more steps. -/
  fuel : Nat
  hasTypes : Bool
  hasElements : Bool
  isModule : Bool
  /-- `in` is an operator. -/
  allowIn : Bool := true
  /-- `await` is an operator. -/
  isAsync : Bool := false
  /-- `await` is an operator in functions only. -/
  barsAwait : Bool := false
  /-- `yield` is an operator. -/
  isGenerator : Bool := false
  inFunction : Bool := false
  /-- Declarations define nothing. -/
  isAmbient : Bool := false
  /-- A colon ends the expression. -/
  inChoice : Bool := false
  /-- `extends` in a type begins a choice. -/
  allowTypeChoice : Bool := true

/-- The place of a parser in a program. -/
structure State where
  token : Token
  /-- What stands before the token. -/
  gap : Lexer.Gap
  /-- The program from the token on. -/
  here : List Char
  /-- The program after the token. -/
  rest : List Char
  /-- An object has a shorthand with a default, and so has to become a pattern. -/
  owesPattern : Bool := false

/-- The place at the front of `cs`; `opens` tells that the token before opens something. -/
def State.start (fuel : Nat) (script opens newline : Bool) (owes : Bool) (cs : List Char) : State :=
  match Lexer.skipGap? fuel script opens false { newline } cs with
  | some (gap, broken, cs) =>
    let (token, rest) := Lexer.token fuel cs
    { token, gap := { gap with newline := gap.newline || broken }, here := cs, rest,
      owesPattern := owes }
  | none => { token := .bad, gap := { newline }, here := cs, rest := cs, owesPattern := owes }

/-- A parser. -/
abbrev Parser := ReaderT Context (StateT State Option)

namespace Parser

variable {α : Type}

/-- Goes on to the next token, read from `rest`. -/
def goOn (opens : Bool) (rest : List Char) : Parser Unit := do
  let c ← read
  modify fun s => State.start c.fuel (!c.isModule) opens false s.owesPattern rest

/-- Goes on to the next token. -/
def advance : Parser Unit := do
  let s ← get
  goOn (s.token == .sign "(" || s.token == .sign "=") s.rest

/-- The token in front. -/
def token : Parser Token :=
  State.token <$> get

/-- A line ends before the token in front. -/
def newline : Parser Bool := do
  return (← get).gap.newline

/-- The comments that belong to the token in front. -/
def comments : Parser (List Comment) := do
  return (← get).gap.comments.reverse

/-- The token in front is the sign `s`. -/
def atSign (s : String) : Parser Bool := do
  return (← token) == .sign s

/-- The token in front is the word `s`. -/
def atWord (s : String) : Parser Bool := do
  return (← token) == .name s false

/-- The token in front is one of the words. -/
def atAnyWord (ss : List String) : Parser Bool := do
  match ← token with
  | .name s false => return ss.contains s
  | _ => return false

/-- Takes the sign `s` if it is in front. -/
def takeSign (s : String) : Parser Bool := do
  if ← atSign s then
    advance
    return true
  else return false

/-- Takes the word `s` if it is in front. -/
def takeWord (s : String) : Parser Bool := do
  if ← atWord s then
    advance
    return true
  else return false

/-- Takes the sign `s`, which has to be in front. -/
def sign (s : String) : Parser Unit := do
  unless ← takeSign s do failure

/-- Takes the word `s`, which has to be in front. -/
def word (s : String) : Parser Unit := do
  unless ← takeWord s do failure

/-- Fails unless `b`. -/
def ensure (b : Bool) : Parser Unit := do
  unless b do failure

/-- The dialect has types. -/
def hasTypes : Parser Bool := do
  return (← read).hasTypes

/-- Fails unless the dialect has types. -/
def ensureTypes : Parser Unit := do
  ensure (← hasTypes)

/-- What `p` gives, without going on. -/
def ahead (p : Parser α) : Parser α := do
  let s ← get
  let a ← p
  set s
  return a

/-- `p` gives true here. -/
def seems (p : Parser Bool) : Parser Bool := do
  ahead p <|> return false

/-- Goes on with `p` if it does not fail. -/
def attempt (p : Parser α) : Parser (Option α) := do
  some <$> p <|> return none

/-- Under a changed context. -/
def within (f : Context → Context) (p : Parser α) : Parser α :=
  fun c => p (f c)

/-- Steps of `step`, at most `fuel` of them, until it gives nothing. -/
def repeatUpTo (step : Parser (Option α)) : Nat → Parser (List α)
  | 0 => failure
  | fuel + 1 => do
    match ← step with
    | none => return []
    | some a => return a :: (← repeatUpTo step fuel)

/-- Steps of `step` until it gives nothing. -/
def repeatWhile (step : Parser (Option α)) : Parser (List α) := do
  repeatUpTo step (← read).fuel

/-- Steps of `step` from `a` on, at most `fuel` of them, until it gives nothing. -/
def iterateUpTo (step : α → Parser (Option α)) : Nat → α → Parser α
  | 0, _ => failure
  | fuel + 1, a => do
    match ← step a with
    | none => return a
    | some a => iterateUpTo step fuel a

/-- Steps of `step` from `a` on until it gives nothing. -/
def iterate (a : α) (step : α → Parser (Option α)) : Parser α := do
  iterateUpTo step (← read).fuel a

/-- `item` again and again up to the sign `close`, which is taken. -/
def closedBy (close : String) (item : Parser α) : Parser (List α) := do
  let items ← repeatWhile do
    if ← atSign close then return none else some <$> item
  advance
  return items

/-- Items with commas between them up to the sign `close`, which is taken; a comma may follow the
last one. -/
def separated (close : String) (item : Parser α) : Parser (List α) :=
  closedBy close do
    let a ← item
    unless ← atSign close do sign ","
    return a

/-- The end of a statement. -/
def semicolon : Parser Unit := do
  unless ← takeSign ";" do
    match ← token with
    | .sign "\x7d" | .finish => return
    | _ => ensure (← newline)

/-- The longest sign in front that begins with `>`. -/
def angle : Parser String := do
  match Lexer.sign? angleSigns (← get).here with
  | some (s, _) => return s
  | none => failure

/-- Goes on after the characters of `s`, which are in front. -/
def skip (s : String) : Parser Unit := do
  goOn false ((← get).here.drop s.length)

/-- Reads the token in front as one sign fewer: `<<` begins with `<`. -/
def openAngle : Parser Bool := do
  match ← token with
  | .sign s =>
    if s.toList.head? == some '<' then
      skip "<"
      return true
    else return false
  | _ => return false

/-- A name of any kind, a keyword too. -/
def anyName : Parser String := do
  match ← token with
  | .name s _ =>
    advance
    return s
  | _ => failure

/-- The word may name a variable here. -/
def mayName (c : Context) (s : String) : Bool :=
  !isReserved s && !(s == "await" && c.isAsync) && !(s == "yield" && c.isGenerator)

/-- The name of a variable is in front. -/
def atVariable : Parser Bool := do
  match ← token with
  | .name s _ => return mayName (← read) s
  | _ => return false

/-- The name of a variable. -/
def variableName : Parser String := do
  ensure (← atVariable)
  anyName

/-- A text. -/
def stringValue : Parser StringValue := do
  match ← token with
  | .string t _ =>
    advance
    return t
  | _ => failure

end Parser

/-- The productions that the others call. -/
structure Grammar where
  /-- Expressions with commas between them. -/
  expression : Parser Expr
  /-- An expression without a comma. -/
  assignment : Parser Expr
  /-- Operands and the operators between them that bind at least so tightly. -/
  binary : Nat → Parser Expr
  /-- An operand with the operators in front of it. -/
  unary : Parser Expr
  /-- What a value is taken apart into. -/
  pattern : Parser Pattern
  statement : Parser Item
  /-- The names that a type mentions. -/
  type : Parser (List String)
  element : Parser Expr

namespace Grammar

/-- The grammar of nothing. -/
def empty : Grammar where
  expression := failure
  assignment := failure
  binary _ := failure
  unary := failure
  pattern := failure
  statement := failure
  type := failure
  element := failure

end Grammar

end StorySuite.Script
