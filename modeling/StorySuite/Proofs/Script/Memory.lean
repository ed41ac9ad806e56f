import StorySuite.Script.Inspection

/-!
# Proofs — Script — values, properties and written objects

What the objects that a program writes out are when the program has run, as far as looking up
properties of them goes.  A `Memory` holds the values of a run: each has own properties, may
inherit from another, and answers to reads.  An object is filled property by property (`Adds`,
`Fills`); what an expression's value is, is followed through objects and functions that are written
out, and else left open (`Evaluates`); what a variable is given by the pattern that declares it is
told by `Takes`.

Getters answer without changing anything.  Nothing is said of values that are not written out,
except that reading them gives a value.
-/

namespace StorySuite.Script

open Decimal

/-! ### Names of properties -/

namespace PropertyKey

/-- The name that a property has when the program runs, when it is written out and not private. -/
def scriptName? : PropertyKey → Option StringValue
  | .name s => some ⟨s, false⟩
  | .string t => some t
  | .number x => some ⟨(x.map Layout.script.write).getD "Infinity", false⟩
  | .bigint n => some ⟨toString n, false⟩
  | .privateName _ | .computed _ => none

/-- The property may have the name; that of a computed one is left open. -/
def Denotes (key : PropertyKey) (k : StringValue) : Prop :=
  key.scriptName? = some k ∨ ∃ e, key = .computed e

/-- In an object that is written out, the value under the key is not a property but what the object
inherits from. -/
def setsParent (key : PropertyKey) : Bool :=
  decide (key.scriptName? = some ⟨"__proto__", false⟩)

end PropertyKey

/-! ### Memories -/

/-- A property that an object has by itself. -/
inductive Slot (Value : Type) where
  | data (v : Value)
  /-- The property is computed from what it is read of, unless it can only be written. -/
  | accessor (get : Option (Value → Value))

/-- The values of a run, and what reading their properties gives. -/
structure Memory where
  Value : Type
  undefined : Value
  null : Value
  /-- What objects that are written out inherit from. -/
  objectPrototype : Value
  isObject : Value → Bool
  isFunction : Value → Bool
  /-- Looking up a property on the value fails. -/
  isNullish : Value → Bool
  /-- The value passes a test. -/
  isTruthy : Value → Bool
  /-- The value is an object that a program has written out, and no exotic one. -/
  isPlain : Value → Bool
  own : Value → StringValue → Option (Slot Value)
  parent : Value → Option Value
  /-- The property of `holder`, read for `receiver`, which getters are called with. -/
  read : (receiver holder : Value) → StringValue → Value
  read_plain : ∀ receiver holder k, isPlain holder = true →
    read receiver holder k =
      match own holder k with
      | some (.data v) => v
      | some (.accessor get) => (get.map (· receiver)).getD undefined
      | none => ((parent holder).map (read receiver · k)).getD undefined
  plain_object : ∀ v, isPlain v = true →
    isObject v = true ∧ isTruthy v = true ∧ isFunction v = false
  undefined_nullish : isNullish undefined = true
  nullish_falsy : ∀ v, isNullish v = true → isTruthy v = false
  undefined_function : isFunction undefined = false

namespace Memory

variable (m : Memory)

/-- What the property is when the value does not have it by itself. -/
def inherited (v : m.Value) (k : StringValue) : m.Value :=
  ((m.parent v).map (m.read v · k)).getD m.undefined

/-- Looking up the property on the value gives a function. -/
def FindsFunction (v : m.Value) (k : StringValue) : Prop :=
  m.isNullish v = false ∧ m.isFunction (m.read v v k) = true

/-- The value does not have the property by itself and inherits a function under its name. -/
def InheritsFunction (v : m.Value) (k : StringValue) : Prop :=
  m.own v k = none ∧ m.isFunction (m.inherited v k) = true

variable {m}

theorem read_of_own_none {v : m.Value} {k : StringValue} (hv : m.isPlain v = true)
    (hk : m.own v k = none) : m.read v v k = m.inherited v k := by
  rw [m.read_plain v v k hv, hk]
  rfl

theorem read_of_own_data {v u : m.Value} {k : StringValue} (hv : m.isPlain v = true)
    (hk : m.own v k = some (.data u)) : m.read v v k = u := by
  rw [m.read_plain v v k hv, hk]

theorem not_isNullish_of_truthy {v : m.Value} (hv : m.isTruthy v = true) :
    m.isNullish v = false := by
  cases hnull : m.isNullish v with
  | false => rfl
  | true =>
      rw [m.nullish_falsy v hnull] at hv
      cases hv

theorem not_isNullish_of_plain {v : m.Value} (hv : m.isPlain v = true) : m.isNullish v = false :=
  not_isNullish_of_truthy (m.plain_object v hv).2.1

theorem not_isFunction_of_plain {v : m.Value} (hv : m.isPlain v = true) :
    m.isFunction v = false :=
  (m.plain_object v hv).2.2

/-- A written object finds what it inherits where it has nothing by itself. -/
theorem findsFunction_iff_inherits {v : m.Value} {k : StringValue} (hv : m.isPlain v = true)
    (hk : m.own v k = none) : m.FindsFunction v k ↔ m.InheritsFunction v k := by
  rw [FindsFunction, InheritsFunction, read_of_own_none hv hk]
  exact ⟨fun h => ⟨hk, h.2⟩, fun h => ⟨not_isNullish_of_plain hv, h.2⟩⟩

end Memory

/-! ### Objects that are written out -/

/-- An object while it is filled. -/
structure Draft (m : Memory) where
  own : StringValue → Option (Slot m.Value)
  parent : Option m.Value

namespace Draft

variable {m : Memory}

/-- An object before anything is put into it. -/
def start (m : Memory) : Draft m :=
  ⟨fun _ => none, some m.objectPrototype⟩

/-- The object with a property set. -/
def set (d : Draft m) (k : StringValue) (slot : Slot m.Value) : Draft m :=
  { d with own := fun k' => if k' = k then some slot else d.own k' }

/-- What computes the property, where something does. -/
def getter (d : Draft m) (k : StringValue) : Option (m.Value → m.Value) :=
  match d.own k with
  | some (.accessor get) => get
  | _ => none

@[simp] theorem set_own (d : Draft m) (k : StringValue) (slot : Slot m.Value) (k' : StringValue) :
    (d.set k slot).own k' = if k' = k then some slot else d.own k' :=
  rfl

end Draft

/-- The value is the written object that the draft has become. -/
structure Memory.Holds (m : Memory) (v : m.Value) (d : Draft m) : Prop where
  plain : m.isPlain v = true
  own : ∀ k, m.own v k = d.own k
  parent : m.parent v = d.parent

/-- The value of the expression is left open. -/
def Expr.isOpen : Expr → Bool
  | .paren _ | .cast .. | .object _ | .function _ | .arrow _ | .class _ => false
  | _ => true

mutual

/-- The expression may have the value. -/
inductive Evaluates (m : Memory) : Expr → m.Value → Prop where
  | paren {e : Expr} {v : m.Value} (h : Evaluates m e v) : Evaluates m (.paren e) v
  | cast {form : CastForm} {types : List String} {e : Expr} {v : m.Value}
      (h : Evaluates m e v) : Evaluates m (.cast form types e) v
  | object {ps : List Property} {d : Draft m} {v : m.Value} (hd : Fills m ps (.start m) d)
      (hv : m.Holds v d) : Evaluates m (.object ps) v
  | function {f : Function} {v : m.Value} (hv : m.isFunction v = true) :
      Evaluates m (.function f) v
  | arrow {f : Function} {v : m.Value} (hv : m.isFunction v = true) : Evaluates m (.arrow f) v
  | class {c : Class} {v : m.Value} (hv : m.isFunction v = true) : Evaluates m (.class c) v
  | other {e : Expr} {v : m.Value} (he : e.isOpen = true) : Evaluates m e v

/-- The property makes the second draft of the first. -/
inductive Adds (m : Memory) : Property → Draft m → Draft m → Prop where
  | value {key : PropertyKey} {e : Expr} {k : StringValue} {v : m.Value} {d : Draft m}
      (hparent : key.setsParent = false) (hk : key.Denotes k) (hv : Evaluates m e v) :
      Adds m (.value key e) d (d.set k (.data v))
  | parent {key : PropertyKey} {e : Expr} {v : m.Value} {d : Draft m}
      (hparent : key.setsParent = true) (hv : Evaluates m e v) (hobject : m.isObject v = true) :
      Adds m (.value key e) d { d with parent := some v }
  | orphan {key : PropertyKey} {e : Expr} {d : Draft m} (hparent : key.setsParent = true)
      (hv : Evaluates m e m.null) : Adds m (.value key e) d { d with parent := none }
  | ignored {key : PropertyKey} {e : Expr} {v : m.Value} {d : Draft m}
      (hparent : key.setsParent = true) (hv : Evaluates m e v) (hobject : m.isObject v = false)
      (hnull : v ≠ m.null) : Adds m (.value key e) d d
  | shorthand {s : String} {v : m.Value} {d : Draft m} :
      Adds m (.shorthand s) d (d.set ⟨s, false⟩ (.data v))
  | initialized {s : String} {e : Expr} {v : m.Value} {d : Draft m} :
      Adds m (.initialized s e) d (d.set ⟨s, false⟩ (.data v))
  | method {kind : MethodKind} {key : PropertyKey} {f : Function} {k : StringValue} {v : m.Value}
      {d : Draft m} (hkind : kind = .method ∨ kind = .constructor) (hk : key.Denotes k)
      (hv : m.isFunction v = true) : Adds m (.method kind key f) d (d.set k (.data v))
  | getter {key : PropertyKey} {f : Function} {k : StringValue} {get : m.Value → m.Value}
      {d : Draft m} (hk : key.Denotes k) :
      Adds m (.method .getter key f) d (d.set k (.accessor (some get)))
  | setter {key : PropertyKey} {f : Function} {k : StringValue} {d : Draft m}
      (hk : key.Denotes k) :
      Adds m (.method .setter key f) d (d.set k (.accessor (d.getter k)))
  /-- A computed name may be no text. -/
  | symbol {key e : Expr} {d : Draft m} : Adds m (.value (.computed key) e) d d
  | symbolMethod {kind : MethodKind} {key : Expr} {f : Function} {d : Draft m} :
      Adds m (.method kind (.computed key) f) d d
  | spread {e : Expr} {d d' : Draft m} (hparent : d'.parent = d.parent)
      (hown : ∀ k, d'.own k = d.own k ∨ ∃ v, d'.own k = some (.data v)) :
      Adds m (.spread e) d d'

/-- The properties make the second draft of the first, one after another. -/
inductive Fills (m : Memory) : List Property → Draft m → Draft m → Prop where
  | nil {d : Draft m} : Fills m [] d d
  | cons {p : Property} {ps : List Property} {d d' d'' : Draft m} (h : Adds m p d d')
      (hs : Fills m ps d' d'') : Fills m (p :: ps) d d''

end

/-! ### Patterns -/

/-- `w` holds those properties of `u` that no property of a pattern takes. -/
structure Memory.IsRest (m : Memory) (ps : List Pattern) (u w : m.Value) : Prop where
  plain : m.isPlain w = true
  parent : m.parent w = some m.objectPrototype
  copied : ∀ k, m.own w k = none ∨ m.own w k = (m.own u k).map fun _ => .data (m.read u u k)
  taken : ∀ {key short p k}, .property key short p ∈ ps → key.scriptName? = some k →
    m.own w k = none
  left : ∀ k, (∀ key short p, .property key short p ∈ ps → ¬ key.Denotes k) →
    m.own w k = (m.own u k).map fun _ => .data (m.read u u k)

/-- The pattern, when it is given the first value, may give the variable the second. -/
inductive Takes (m : Memory) : Pattern → m.Value → String → m.Value → Prop where
  | name {s : String} {u : m.Value} : Takes m (.name s) u s u
  | typed {p : Pattern} {types : List String} {u v : m.Value} {s : String}
      (h : Takes m p u s v) : Takes m (.typed p types) u s v
  | given {p : Pattern} {e : Expr} {u v : m.Value} {s : String} (hu : u ≠ m.undefined)
      (h : Takes m p u s v) : Takes m (.withDefault p e) u s v
  | default {p : Pattern} {e : Expr} {u v : m.Value} {s : String}
      (he : Evaluates m e u) (h : Takes m p u s v) :
      Takes m (.withDefault p e) m.undefined s v
  | property {ps : List Pattern} {key : PropertyKey} {short : Bool} {p : Pattern}
      {k : StringValue} {u v : m.Value} {s : String} (hp : .property key short p ∈ ps)
      (hk : key.Denotes k) (h : Takes m p (m.read u u k) s v) : Takes m (.object ps) u s v
  | rest {ps : List Pattern} {p : Pattern} {u w v : m.Value} {s : String} (hp : .rest p ∈ ps)
      (hw : m.IsRest ps u w) (h : Takes m p w s v) : Takes m (.object ps) u s v
  /-- What going through a value gives is left open. -/
  | item {ps : List Pattern} {p : Pattern} {u w v : m.Value} {s : String} (hp : p ∈ ps)
      (h : Takes m p w s v) : Takes m (.array ps) u s v

/-! ### A memory of trees -/

/-- Values of which objects are trees: an object holds what it inherits from and what it has. -/
inductive Tree where
  | undefined
  | null
  | function
  | root
  | object (parent : Tree) (own : StringValue → Option Tree)

namespace Tree

/-- An object with one property. -/
def single (s : String) (v : Tree) : Tree :=
  .object .root fun k => if k = ⟨s, false⟩ then some v else none

/-- The property that is found on a value. -/
def find : Tree → StringValue → Tree
  | .object parent own, k =>
    match own k with
    | some v => v
    | none => parent.find k
  | _, _ => .undefined

def isObject : Tree → Bool
  | .undefined | .null => false
  | _ => true

def isFunction : Tree → Bool
  | .function => true
  | _ => false

def isPlain : Tree → Bool
  | .object .. => true
  | _ => false

def own : Tree → StringValue → Option (Slot Tree)
  | .object _ own, k => (own k).map .data
  | _, _ => none

def parent : Tree → Option Tree
  | .object parent _ => some parent
  | _ => none

end Tree

/-- The memory whose objects are trees; nothing but these objects has properties. -/
def Tree.memory : Memory where
  Value := Tree
  undefined := .undefined
  null := .null
  objectPrototype := .root
  isObject := isObject
  isFunction := isFunction
  isNullish v := !v.isObject
  isTruthy := isObject
  isPlain := isPlain
  own := own
  parent := parent
  read _ holder k := holder.find k
  read_plain := by
    intro _ holder k hplain
    cases holder with
    | object parent own =>
        simp only [find, Tree.own, Tree.parent]
        cases own k <;> rfl
    | _ => cases hplain
  plain_object := by
    intro v hplain
    cases v with
    | object parent own => exact ⟨rfl, rfl, rfl⟩
    | _ => cases hplain
  undefined_nullish := rfl
  nullish_falsy := by
    intro v h
    simpa using h
  undefined_function := rfl

end StorySuite.Script
