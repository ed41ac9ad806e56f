import Mathlib.Tactic.Tauto
import StorySuite.Script.Mentions

/-!
# Proofs — Script — references to a variable

Which pieces of a program stand for the value of a variable, said without walking through programs:
`Node.parts` tells what a piece of syntax is directly made of, `Node.Names` which pieces are a
reference by themselves, and a piece `Refers` to a variable when it is a reference to it or one of
its parts refers to it.

* `mem_mentions_of_refers`: a variable that is referred to is mentioned, so nothing that can change
  the value of a variable escapes `Program.mentionCount`.

The converse does not hold: a name in a type is mentioned and stands for no value.
-/

namespace StorySuite.Script

/-- A piece of syntax. -/
inductive Node where
  | expr (e : Expr)
  | pattern (p : Pattern)
  | key (k : PropertyKey)
  | property (p : Property)
  /-- A member of an enumeration. -/
  | enumMember (p : Property)
  | function (f : Function)
  | class (c : Class)
  | member (m : Member)
  | stmt (s : Stmt)

namespace Node

/-- The statements among items. -/
def ofItems (items : List Item) : List Node :=
  items.map fun i => .stmt i.stmt

/-- What a piece of syntax is directly made of. -/
def parts : Node → List Node
  | .expr (.template _ es) | .expr (.array es) | .expr (.sequence es) => es.map .expr
  | .expr (.importCall _ es) => es.map .expr
  | .expr (.tagged e _ _ es) | .expr (.call e _ es _ _) | .expr (.new e _ es _) =>
    .expr e :: es.map .expr
  | .expr (.object ps) => ps.map .property
  | .expr (.function f) | .expr (.arrow f) => [.function f]
  | .expr (.class c) => [.class c]
  | .expr (.unary _ e) | .expr (.update _ _ e) | .expr (.await e) | .expr (.paren e) => [.expr e]
  | .expr (.spread e) | .expr (.privateIn _ e) | .expr (.member e _ _) => [.expr e]
  | .expr (.privateMember e _ _) | .expr (.cast _ _ e) => [.expr e]
  | .expr (.binary _ a b) | .expr (.index a b _) => [.expr a, .expr b]
  | .expr (.assign _ p e) => [.pattern p, .expr e]
  | .expr (.conditional a b c) => [.expr a, .expr b, .expr c]
  | .expr (.yield _ e) => e.toList.map .expr
  | .expr (.element _ _ ps cs) => ps.map .property ++ cs.map .expr
  | .expr (.name _) | .expr (.literal _) | .expr .this | .expr .super | .expr .newTarget => []
  | .expr .importMeta | .expr (.elementText _) | .expr .hole => []
  | .pattern (.target e) => [.expr e]
  | .pattern (.array ps) | .pattern (.object ps) => ps.map .pattern
  | .pattern (.property k _ p) => [.key k, .pattern p]
  | .pattern (.withDefault p e) => [.pattern p, .expr e]
  | .pattern (.typed p _) | .pattern (.rest p) => [.pattern p]
  | .pattern (.parameter ds _ p) => ds.map .expr ++ [.pattern p]
  | .pattern (.name _) | .pattern .hole => []
  | .key (.computed e) => [.expr e]
  | .key _ => []
  | .property (.value k e) | .enumMember (.value k e) => [.key k, .expr e]
  | .property (.initialized _ e) | .enumMember (.initialized _ e) => [.expr e]
  | .property (.method _ k f) | .enumMember (.method _ k f) => [.key k, .function f]
  | .property (.spread e) | .enumMember (.spread e) => [.expr e]
  | .property (.shorthand _) | .enumMember (.shorthand _) => []
  | .function (.mk _ _ _ _ ps _ body) => ps.map .pattern ++ ofItems body
  | .class (.mk ds _ _ heritage members) =>
    ds.map .expr ++ heritage.toList.map .expr ++ members.map .member
  | .member (.method _ ds _ _ k f) => ds.map .expr ++ [.key k, .function f]
  | .member (.field _ ds _ _ _ k _ e) => ds.map .expr ++ .key k :: e.toList.map .expr
  | .member (.block _ items) => ofItems items
  | .member (.signature _) => []
  | .stmt (.block items) | .stmt (.namespace _ items) => ofItems items
  | .stmt (.expr e) | .stmt (.throw e) | .stmt (.exportAssignment e) => [.expr e]
  | .stmt (.declaration _ ps) => ps.map .pattern
  | .stmt (.function f) => [.function f]
  | .stmt (.class c) => [.class c]
  | .stmt (.choice e s t) => .expr e :: .stmt s :: t.toList.map .stmt
  | .stmt (.forLoop init test step s) =>
    init.toList.map .stmt ++ test.toList.map .expr ++ step.toList.map .expr ++ [.stmt s]
  | .stmt (.forIn _ p e s) | .stmt (.forOf _ _ p e s) => [.pattern p, .expr e, .stmt s]
  | .stmt (.whileLoop e s) | .stmt (.doWhile s e) | .stmt (.withScope e s) => [.expr e, .stmt s]
  | .stmt (.return e) => e.toList.map .expr
  | .stmt (.switch e cases) => .expr e :: ofItems cases
  | .stmt (.case e items) => e.toList.map .expr ++ ofItems items
  | .stmt (.tryBlock items handler finalizer) =>
    ofItems items ++ handler.toList.map .stmt ++ finalizer.toList.map .stmt
  | .stmt (.handler p items) => .pattern p :: ofItems items
  | .stmt (.labeled _ s) | .stmt (.exportDeclaration s) | .stmt (.exportDefault s) => [.stmt s]
  | .stmt (.ambient s) => [.stmt s]
  | .stmt (.enum _ members) => members.map .enumMember
  | .stmt .empty | .stmt .ending | .stmt (.directive _) | .stmt (.break _) => []
  | .stmt (.continue _) | .stmt .debugger | .stmt (.import ..) | .stmt (.exportNames ..) => []
  | .stmt (.exportAll ..) | .stmt (.typeName ..) | .stmt (.importAlias ..) => []
  | .stmt (.exportAsNamespace _) => []

/-- The piece stands by itself for the value of the variable. -/
inductive Names (s : String) : Node → Prop where
  | name : Names s (.expr (.name s))
  | element {tag : ElementName} {types : List String} {ps : List Property} {cs : List Expr}
      (htag : tag.variableName? = some s) : Names s (.expr (.element (some tag) types ps cs))
  | shorthand : Names s (.property (.shorthand s))
  | initialized {e : Expr} : Names s (.property (.initialized s e))
  | exported {typeOnly : Bool} {bindings : List ExportBinding} {b : ExportBinding}
      (hb : b ∈ bindings) (hname : b.name.text = s) :
      Names s (.stmt (.exportNames typeOnly bindings none))
  | aliased {typeOnly : Bool} {name : String} {rest : List String} :
      Names s (.stmt (.importAlias typeOnly name (.path s rest)))

/-- The piece stands for the value of the variable, or something in it does. -/
inductive Refers (s : String) : Node → Prop where
  | here {n : Node} (h : n.Names s) : Refers s n
  | inside {n part : Node} (hpart : part ∈ n.parts) (h : part.Refers s) : Refers s n

/-- What a piece of syntax mentions. -/
def mentions : Node → List Mention
  | .expr e => e.mentions
  | .pattern p => p.mentions
  | .key k => k.mentions
  | .property p => p.mentions
  | .enumMember (.shorthand _) => []
  | .enumMember p => p.mentions
  | .function f => f.mentions
  | .class c => c.mentions
  | .member m => m.mentions
  | .stmt s => s.mentions

end Node

/-! ### Mentions, part by part -/

theorem mentionsAll_eq : ∀ es : List Expr, mentionsAll es = es.flatMap Expr.mentions
  | [] => rfl
  | e :: es => congrArg (e.mentions ++ ·) (mentionsAll_eq es)

theorem mentionsIn_eq : ∀ e : Option Expr, mentionsIn e = e.toList.flatMap Expr.mentions
  | none => rfl
  | some e => (List.append_nil e.mentions).symm

theorem mentionsOfPatterns_eq : ∀ ps : List Pattern,
    mentionsOfPatterns ps = ps.flatMap Pattern.mentions
  | [] => rfl
  | p :: ps => congrArg (p.mentions ++ ·) (mentionsOfPatterns_eq ps)

theorem mentionsOfProperties_eq : ∀ ps : List Property,
    mentionsOfProperties ps = ps.flatMap Property.mentions
  | [] => rfl
  | p :: ps => congrArg (p.mentions ++ ·) (mentionsOfProperties_eq ps)

theorem mentionsOfMembers_eq : ∀ ms : List Member,
    mentionsOfMembers ms = ms.flatMap Member.mentions
  | [] => rfl
  | m :: ms => congrArg (m.mentions ++ ·) (mentionsOfMembers_eq ms)

theorem mentionsOfEnum_eq : ∀ ms : List Property,
    mentionsOfEnum ms = ms.flatMap fun m => (Node.enumMember m).mentions
  | [] => rfl
  | .shorthand _ :: ms => mentionsOfEnum_eq ms
  | .value k e :: ms => congrArg ((Property.value k e).mentions ++ ·) (mentionsOfEnum_eq ms)
  | .initialized s e :: ms =>
      congrArg ((Property.initialized s e).mentions ++ ·) (mentionsOfEnum_eq ms)
  | .method kind k f :: ms =>
      congrArg ((Property.method kind k f).mentions ++ ·) (mentionsOfEnum_eq ms)
  | .spread e :: ms => congrArg ((Property.spread e).mentions ++ ·) (mentionsOfEnum_eq ms)

theorem mentionsOfBranch_eq : ∀ s : Option Stmt,
    mentionsOfBranch s = s.toList.flatMap Stmt.mentions
  | none => rfl
  | some s => (List.append_nil s.mentions).symm

theorem mentionsOfItems_eq : ∀ items : List Item,
    mentionsOfItems items = items.flatMap fun i => i.stmt.mentions
  | [] => rfl
  | .mk _ s :: items => congrArg (s.mentions ++ ·) (mentionsOfItems_eq items)

namespace Node

theorem ofItems_mentions (items : List Item) :
    (ofItems items).flatMap mentions = mentionsOfItems items := by
  rw [mentionsOfItems_eq, ofItems, List.flatMap_map]
  rfl

section Parts

variable {x : Mention}

theorem expr_parts_mentions (e : Expr) (h : x ∈ (parts (.expr e)).flatMap mentions) :
    x ∈ e.mentions := by
  cases e <;>
    simp only [parts, mentions, Expr.mentions, mentionsAll_eq, mentionsIn_eq,
      mentionsOfProperties_eq, List.flatMap_cons, List.flatMap_nil, List.flatMap_append,
      List.flatMap_map, List.mem_append, List.mem_cons, List.append_nil] at h ⊢ <;>
    tauto

theorem stmt_parts_mentions (s : Stmt) (h : x ∈ (parts (.stmt s)).flatMap mentions) :
    x ∈ s.mentions := by
  cases s <;>
    simp only [parts, mentions, Stmt.mentions, ofItems_mentions, mentionsIn_eq,
      mentionsOfPatterns_eq, mentionsOfBranch_eq, mentionsOfEnum_eq, List.flatMap_cons,
      List.flatMap_nil, List.flatMap_append, List.flatMap_map, List.append_nil, List.mem_append,
      List.not_mem_nil] at h ⊢ <;>
    tauto

end Parts

/-- What a part of a piece mentions, the piece mentions. -/
theorem mem_mentions_of_mem_parts {n part : Node} (hpart : part ∈ n.parts) {x : Mention}
    (hx : x ∈ part.mentions) : x ∈ n.mentions := by
  have h : x ∈ n.parts.flatMap mentions := List.mem_flatMap.mpr ⟨part, hpart, hx⟩
  -- one case for each kind of piece; the mentions of its parts are among its own
  cases n with
  | expr e => exact expr_parts_mentions e h
  | pattern p =>
      cases p <;>
        simp only [parts, mentions, Pattern.mentions, mentionsAll_eq, mentionsOfPatterns_eq,
          List.flatMap_cons, List.flatMap_nil, List.flatMap_append, List.flatMap_map,
          List.mem_append, List.append_nil] at h ⊢ <;>
        tauto
  | key k =>
      cases k with
      | computed e =>
          rw [parts, List.flatMap_cons, List.flatMap_nil, List.append_nil] at h
          exact h
      | _ => exact h
  | property p | enumMember p =>
      cases p <;>
        simp only [parts, mentions, Property.mentions, List.flatMap_cons, List.flatMap_nil,
          List.append_nil, List.mem_append, List.mem_cons, List.not_mem_nil] at h ⊢ <;>
        tauto
  | function f =>
      rcases f with ⟨⟩
      simp only [parts, mentions, Function.mentions, ofItems_mentions, mentionsOfPatterns_eq,
        List.flatMap_append, List.flatMap_map, List.mem_append] at h ⊢
      tauto
  | «class» c =>
      rcases c with ⟨⟩
      simp only [parts, mentions, Class.mentions, mentionsAll_eq, mentionsIn_eq,
        mentionsOfMembers_eq, List.flatMap_append, List.flatMap_map, List.mem_append] at h ⊢
      tauto
  | member m =>
      cases m <;>
        simp only [parts, mentions, Member.mentions, ofItems_mentions, mentionsAll_eq,
          mentionsIn_eq, List.flatMap_cons, List.flatMap_nil, List.flatMap_append, List.flatMap_map,
          List.append_nil, List.mem_append, List.not_mem_nil] at h ⊢ <;>
        tauto
  | stmt s => exact stmt_parts_mentions s h

/-- A reference is a mention. -/
theorem mem_mentions_of_names {n : Node} {s : String} (h : n.Names s) :
    .variable s ∈ n.mentions := by
  cases h with
  | name => exact List.mem_singleton_self _
  | element htag => simp [mentions, Expr.mentions, variableMentions, htag]
  | shorthand => exact List.mem_singleton_self _
  | initialized => exact List.mem_cons_self
  | exported hb hname =>
      exact List.mem_map.mpr ⟨_, hb, congrArg Mention.variable hname⟩
  | aliased => exact List.mem_singleton_self _

/-- **A variable that is referred to is mentioned.** -/
theorem mem_mentions_of_refers {n : Node} {s : String} (h : n.Refers s) :
    .variable s ∈ n.mentions := by
  induction h with
  | here h => exact mem_mentions_of_names h
  | inside hpart _ ih => exact mem_mentions_of_mem_parts hpart ih

end Node

end StorySuite.Script
