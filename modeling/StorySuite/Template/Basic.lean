import StorySuite.Decimal.Shortest
import StorySuite.Json.Basic
import StorySuite.Text.Quoted

/-!
# Template — texts with places for values

A template is a list of pieces: fixed text, places for values, choices and repetitions.  Rendering
fills it from bindings and fails where a piece asks for a value that is not bound, be it only to
test it.
-/

namespace StorySuite

/-- How a template asks for a value. -/
inductive TemplateExpr where
  | text (s : String)
  | var (name : String)
  | field (e : TemplateExpr) (name : String)
  | concat (a b : TemplateExpr)
  | equals (a b : TemplateExpr)
  /-- The text of `e` as a step of a test: awaited when the binding `suspension` says so. -/
  | step (e : TemplateExpr)

/-- A piece of a template. -/
inductive TemplatePiece where
  | text (s : String)
  /-- A place for a value. -/
  | put (e : TemplateExpr)
  | choice (test : TemplateExpr) (yes no : List TemplatePiece)
  /-- The body once for every item of a list, or for every one with a property. -/
  | each (name : String) (items : TemplateExpr) (keep : Option TemplateExpr)
      (body : List TemplatePiece)

namespace Template

open Json Decimal

/-- What is bound, the innermost bindings first. -/
abbrev Bindings := DataMap

/-- The layout of fractions in rendered text: no powers of ten. -/
def fractionLayout : Layout := ⟨-400, 400, true, false⟩

mutual

/-- A value as it is shown inside a list or an object.  An object is shown in the order of its
keys. -/
def shownInside : Value → String
  | .null => "none"
  | .bool true => "true"
  | .bool false => "false"
  | .number (.whole n) => toString n
  | .number (.real x) => fractionLayout.write x
  | .string s => Text.displayQuoted s
  | .array items => "[" ++ ", ".intercalate (shownItems items) ++ "]"
  | .object fields =>
    let sorted := (shownFields fields).mergeSort fun f g => decide (f.1 ≤ g.1)
    "\x7b" ++ ", ".intercalate (sorted.map fun f => Text.displayQuoted f.1 ++ ": " ++ f.2) ++ "\x7d"

/-- The items of a list as they are shown. -/
def shownItems : List Value → List String
  | [] => []
  | v :: rest => shownInside v :: shownItems rest

/-- The keys of an object, each with its value as it is shown. -/
def shownFields : List (String × Value) → List (String × String)
  | [] => []
  | (k, v) :: rest => (k, shownInside v) :: shownFields rest

end

/-- A value as it is put into text. -/
def shown : Value → String
  | .string s => s
  | v => shownInside v

/-- A value passes a test. -/
def passes : Value → Bool
  | .null => false
  | .bool b => b
  | .number (.whole n) => n != 0
  | .number (.real x) => !x.isZero
  | .string s => !s.isEmpty
  | .array items => !items.isEmpty
  | .object fields => !fields.isEmpty

/-- The items that a repetition runs over: of a list its items, of a text its characters, of an
object its keys in their order, of nothing none. -/
def itemsOf? : Value → Option (List Value)
  | .null => some []
  | .string s => some (s.toList.map fun c => .string (String.singleton c))
  | .array items => some items
  | .object fields =>
    some (((fields.map Prod.fst).mergeSort fun k l => decide (k ≤ l)).map .string)
  | .bool _ | .number _ => none

/-- Two values are the same text. -/
def sameText : Value → Value → Bool
  | .string a, .string b => a == b
  | _, _ => false

/-- The bound suspension style asks for steps to be awaited. -/
def isAsync (b : Bindings) : Bool :=
  match b.get? "suspension" with
  | some (.string s) => s == "async"
  | _ => false

/-- A step of a test, awaited or not. -/
def awaited (async : Bool) (step : String) : String :=
  if async then "await Promise.resolve(" ++ step ++ ")" else step

/-- The value that `e` asks for. -/
def eval? (b : Bindings) : TemplateExpr → Option Value
  | .text s => some (.string s)
  | .var name => b.get? name
  | .field e name => do (← eval? b e).field? name
  | .concat x y => do
    let v ← eval? b x
    let w ← eval? b y
    pure (.string (shown v ++ shown w))
  | .equals x y => do
    let v ← eval? b x
    let w ← eval? b y
    pure (.bool (sameText v w))
  | .step e => do
    let v ← eval? b e
    pure (.string (awaited (isAsync b) (shown v)))

/-- The items that pass a repetition's test, if it has one. -/
def kept? (b : Bindings) (name : String) (keep : Option TemplateExpr) :
    List Value → Option (List Value)
  | [] => some []
  | v :: rest => do
    let keeps ← match keep with
      | none => some true
      | some e => (eval? ((name, v) :: b) e).map passes
    let more ← kept? b name keep rest
    pure (if keeps then v :: more else more)

mutual

/-- The text of one piece. -/
def renderPiece? (b : Bindings) : TemplatePiece → Option String
  | .text s => some s
  | .put e => (eval? b e).map shown
  | .choice test yes no => do
    if passes (← eval? b test) then renderPieces? b yes else renderPieces? b no
  | .each name items keep body => do
    let vs ← kept? b name keep (← itemsOf? (← eval? b items))
    let texts ← vs.mapM fun v => renderPieces? ((name, v) :: b) body
    pure (String.join texts)

/-- The text of a template. -/
def renderPieces? (b : Bindings) : List TemplatePiece → Option String
  | [] => some ""
  | p :: rest => do
    let s ← renderPiece? b p
    let t ← renderPieces? b rest
    pure (s ++ t)

end

end Template

end StorySuite
