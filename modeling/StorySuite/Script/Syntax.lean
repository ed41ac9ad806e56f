import StorySuite.Decimal.Binary64

/-!
# Script — programs

The syntax of modules and scripts, with type annotations and elements.  Of a type nothing is kept
but the names that it mentions: they count as uses of these names, and else a type means nothing
here.
-/

namespace StorySuite.Script

open Decimal

/-- A comment in front of a statement. -/
structure Comment where
  /-- The comment with its marks. -/
  text : String
  isLine : Bool
  afterNewline : Bool
  beforeNewline : Bool
  deriving DecidableEq, Repr, Inhabited

/-- A text in a program.  Half of a surrogate pair without its partner is kept as U+FFFD with the
four hexadecimal digits after it; `lone` tells that there is one, and U+FFFD itself is then kept the
same way. -/
structure StringValue where
  value : String
  lone : Bool := false
  deriving DecidableEq, Repr, Inhabited

/-- A number; none is the infinite one. -/
abbrev Numeral := Option Binary64

/-- A value written out. -/
inductive Literal where
  | null
  | bool (b : Bool)
  | number (x : Numeral)
  | bigint (digits : Nat)
  | string (t : StringValue)
  | regex (body flags : String)
  deriving DecidableEq, Repr

/-- A piece of a template between its values; a piece with a broken escape has no text. -/
structure Chunk where
  text : Option StringValue
  raw : String
  deriving DecidableEq, Repr, Inhabited

/-- Operators in front of an operand. -/
inductive UnaryOp where
  | plus | minus | not | bitNot | typeof | void | delete
  deriving DecidableEq, Repr

/-- Operators between operands. -/
inductive BinaryOp where
  | nullish | or | and
  | bitOr | bitXor | bitAnd
  | eq | ne | eqStrict | neStrict
  | lt | le | gt | ge | instanceof | in
  | shl | shr | shrUnsigned
  | add | sub | mul | div | rem | pow
  deriving DecidableEq, Repr

/-- How a variable is declared. -/
inductive VariableKind where
  | var | let | const | using | awaitUsing
  deriving DecidableEq, Repr

/-- What a function with a property's name is. -/
inductive MethodKind where
  | method | getter | setter | constructor
  deriving DecidableEq, Repr

/-- How an expression is given a type. -/
inductive CastForm where
  | as | satisfies | nonNull | assertion | instantiation
  deriving DecidableEq, Repr

/-- The name of an import or export, which may be written as a text. -/
structure ModuleName where
  text : String
  quoted : Bool := false
  deriving DecidableEq, Repr

/-- What an import asks for. -/
inductive ImportKind where
  | values
  | types
  /-- The module before it is linked. -/
  | source
  /-- The module, which is run when it is first used. -/
  | deferred
  deriving DecidableEq, Repr, Inhabited

/-- What an import declares. -/
inductive ImportBinding where
  | default (name : String)
  | namespace (name : String)
  | named (imported : ModuleName) (name : String) (typeOnly : Bool)
  deriving DecidableEq, Repr

/-- A name exported under a name. -/
structure ExportBinding where
  name : ModuleName
  exported : ModuleName
  typeOnly : Bool
  deriving DecidableEq, Repr

/-- Where names are imported from, with what is said about it. -/
structure ModuleSource where
  text : StringValue
  attributes : Option (List (ModuleName × StringValue)) := none
  deriving DecidableEq, Repr

/-- An element's name. -/
inductive ElementName where
  | plain (name : String)
  | namespaced (space name : String)
  | member (root : String) (path : List String)
  deriving DecidableEq, Repr

/-- What the name of an import is an alias for. -/
inductive AliasTarget where
  | external (source : StringValue)
  | path (root : String) (rest : List String)
  deriving DecidableEq, Repr

/-- What the text of a function's body is. -/
inductive BodyForm where
  /-- There is none: the function is only declared. -/
  | missing
  | block
  /-- One expression, held as the statement that returns it. -/
  | value
  deriving DecidableEq, Repr

mutual

/-- An expression. -/
inductive Expr where
  /-- The variable of a name. -/
  | name (s : String)
  | literal (l : Literal)
  | template (chunks : List Chunk) (values : List Expr)
  | tagged (tag : Expr) (types : List String) (chunks : List Chunk) (values : List Expr)
  | array (items : List Expr)
  | object (properties : List Property)
  | function (f : Function)
  | arrow (f : Function)
  | class (c : Class)
  | unary (op : UnaryOp) (e : Expr)
  /-- One more, or one less. -/
  | update (increment before : Bool) (e : Expr)
  | binary (op : BinaryOp) (a b : Expr)
  /-- An assignment, of the value of an operator where there is one. -/
  | assign (op : Option BinaryOp) (target : Pattern) (value : Expr)
  | conditional (test yes no : Expr)
  | call (callee : Expr) (types : List String) (arguments : List Expr) (optional pure : Bool)
  | new (callee : Expr) (types : List String) (arguments : List Expr) (pure : Bool)
  | member (e : Expr) (property : String) (optional : Bool)
  | index (e key : Expr) (optional : Bool)
  | privateMember (e : Expr) (property : String) (optional : Bool)
  | privateIn (property : String) (e : Expr)
  | sequence (es : List Expr)
  | yield (delegate : Bool) (e : Option Expr)
  | await (e : Expr)
  | this
  | super
  | newTarget
  | importMeta
  | importCall (kind : ImportKind) (arguments : List Expr)
  | paren (e : Expr)
  | cast (form : CastForm) (types : List String) (e : Expr)
  /-- An element, or a fragment where there is no tag.  Children are `elementText`, expressions,
  `spread` and `hole`. -/
  | element (tag : Option ElementName) (types : List String) (attributes : List Property)
      (children : List Expr)
  /-- The text between the tags of an element, as it is written. -/
  | elementText (raw : String)
  /-- All values of an expression, among items or arguments. -/
  | spread (e : Expr)
  /-- A missing item. -/
  | hole

/-- What a value is taken apart into, or assigned to. -/
inductive Pattern where
  /-- A variable that is declared here. -/
  | name (s : String)
  /-- A place that exists already. -/
  | target (e : Expr)
  | array (items : List Pattern)
  /-- An object, taken apart into `property` and `rest`. -/
  | object (properties : List Pattern)
  | property (key : PropertyKey) (shorthand : Bool) (p : Pattern)
  | withDefault (p : Pattern) (value : Expr)
  | typed (p : Pattern) (types : List String)
  /-- A parameter with decorators, or one that is made a property of the object under
  construction. -/
  | parameter (decorators : List Expr) (isProperty : Bool) (p : Pattern)
  | rest (p : Pattern)
  | hole

/-- The name of a property. -/
inductive PropertyKey where
  | name (s : String)
  | string (t : StringValue)
  | number (x : Numeral)
  | bigint (digits : Nat)
  | privateName (s : String)
  | computed (e : Expr)

/-- A property of an object, an attribute of an element, or a member of an enumeration. -/
inductive Property where
  | value (key : PropertyKey) (e : Expr)
  /-- A name alone: a variable under its own name, an attribute that is there, the next member. -/
  | shorthand (name : String)
  /-- A shorthand with a default, which only a pattern may hold. -/
  | initialized (name : String) (value : Expr)
  | method (kind : MethodKind) (key : PropertyKey) (f : Function)
  | spread (e : Expr)

/-- A function. -/
inductive Function where
  | mk (name : Option String) (isAsync isGenerator : Bool) (types : List String)
      (parameters : List Pattern) (form : BodyForm) (body : List Item)

/-- A class. -/
inductive Class where
  | mk (decorators : List Expr) (name : Option String) (types : List String)
      (heritage : Option Expr) (members : List Member)

/-- A member of a class. -/
inductive Member where
  | method (comments : List Comment) (decorators : List Expr) (isStatic : Bool) (kind : MethodKind)
      (key : PropertyKey) (f : Function)
  /-- `ambient` fields are only declared. -/
  | field (comments : List Comment) (decorators : List Expr) (isStatic isAccessor ambient : Bool)
      (key : PropertyKey) (types : List String) (value : Option Expr)
  | block (comments : List Comment) (items : List Item)
  /-- What is said of a member's type without defining it. -/
  | signature (types : List String)

/-- A statement. -/
inductive Stmt where
  | empty
  /-- The end of a body, for the comments in front of it. -/
  | ending
  /-- A text at the head of a body that says how it is to be run, as it is written. -/
  | directive (raw : String)
  | block (items : List Item)
  | expr (e : Expr)
  /-- Variables, with their values as defaults. -/
  | declaration (kind : VariableKind) (declared : List Pattern)
  | function (f : Function)
  | class (c : Class)
  | choice (test : Expr) (yes : Stmt) (no : Option Stmt)
  | forLoop (init : Option Stmt) (test step : Option Expr) (body : Stmt)
  /-- A loop over keys; `kind` tells how its variable is declared, if it is. -/
  | forIn (kind : Option VariableKind) (p : Pattern) (e : Expr) (body : Stmt)
  /-- A loop over values. -/
  | forOf (isAwait : Bool) (kind : Option VariableKind) (p : Pattern) (e : Expr) (body : Stmt)
  | whileLoop (test : Expr) (body : Stmt)
  | doWhile (body : Stmt) (test : Expr)
  | return (e : Option Expr)
  | throw (e : Expr)
  | break (label : Option String)
  | continue (label : Option String)
  /-- A choice among `case`s. -/
  | switch (e : Expr) (cases : List Item)
  /-- A case of a switch; one without a test is the default. -/
  | case (test : Option Expr) (body : List Item)
  /-- The handler is a `handler`, the finalizer a `block`. -/
  | tryBlock (body : List Item) (handler finalizer : Option Stmt)
  /-- What is done with an exception; the parameter may be a `hole`. -/
  | handler (parameter : Pattern) (body : List Item)
  | labeled (label : String) (body : Stmt)
  | withScope (e : Expr) (body : Stmt)
  | debugger
  | import (kind : ImportKind) (bindings : Option (List ImportBinding)) (source : ModuleSource)
  | exportNames (typeOnly : Bool) (bindings : List ExportBinding) (source : Option ModuleSource)
  | exportAll (typeOnly : Bool) (as : Option ModuleName) (source : ModuleSource)
  | exportDeclaration (s : Stmt)
  /-- The default export: an `expr`, a `function`, a `class` or a `typeName`. -/
  | exportDefault (s : Stmt)
  /-- A declaration of something that is defined elsewhere. -/
  | ambient (s : Stmt)
  /-- A declaration of a type. -/
  | typeName (name : String) (types : List String)
  | enum (name : String) (members : List Property)
  | namespace (path : List String) (body : List Item)
  | importAlias (typeOnly : Bool) (name : String) (target : AliasTarget)
  | exportAssignment (e : Expr)
  | exportAsNamespace (name : String)

/-- A statement with the comments in front of it. -/
inductive Item where
  | mk (comments : List Comment) (s : Stmt)

end

instance : Inhabited Expr := ⟨.hole⟩
instance : Inhabited Pattern := ⟨.hole⟩
instance : Inhabited Stmt := ⟨.empty⟩
instance : Inhabited Function := ⟨.mk none false false [] [] .missing []⟩
instance : Inhabited Class := ⟨.mk [] none [] none []⟩
instance : Inhabited Item := ⟨.mk [] .empty⟩

namespace Item

/-- The statement. -/
def stmt : Item → Stmt
  | .mk _ s => s

/-- The comments in front of the statement. -/
def comments : Item → List Comment
  | .mk cs _ => cs

/-- A statement without comments. -/
def plain (s : Stmt) : Item :=
  .mk [] s

end Item

/-- A program; the first line may name what runs it. -/
structure Program where
  runner : Option String := none
  items : List Item

end StorySuite.Script
