import Mathlib.Data.List.Induction
import StorySuite.Proofs.Script.Catalog
import StorySuite.Proofs.Script.Reference
import StorySuite.Script.Requires

/-!
# Proofs — Script — the names that a program requires

A program requires a text where a call of `require` has it as its one argument, written out
(`Node.Requires`).  Where that is, is told by places: which part of which part of the program it is,
the parts counted in the order in which they are written (`Node.inOrder`).  So the places of a
program are in the order of its text, and a call stands before what it is made of.

The list of required names is read against these places.  It has what is *written* of the texts:
half of a surrogate pair without the other half is written as U+FFFD with its number behind, and the
list does not tell it from that text.

* `exists_firsts`: leaving out what has been there keeps the first places.
* `Node.exists_lists`: what is collected from a piece stands in it, and is all that does.
* **`Program.requires_isRequired`**: the list of required names.
* `Program.requires_isRequired_of_whole`: the same of texts, where no half stands alone.
-/

namespace StorySuite.Script

/-! ### First places -/

theorem distinct_concat (names : List String) (s : String) :
    distinct (names ++ [s]) =
      if s ∈ distinct names then distinct names else distinct names ++ [s] := by
  unfold distinct
  rw [List.foldl_append, List.foldl_cons, List.foldl_nil]
  generalize names.foldl (fun acc s => if acc.contains s then acc else s :: acc) [] = acc
  by_cases h : s ∈ acc <;> simp [h]

theorem mem_distinct_iff {names : List String} {s : String} : s ∈ distinct names ↔ s ∈ names := by
  induction names using List.reverseRecOn with
  | nil => exact Iff.rfl
  | append_singleton names s' ih =>
      rw [distinct_concat, List.mem_append, List.mem_singleton]
      split
      · rename_i hknown
        rw [ih]
        exact ⟨.inl, fun h => h.elim id fun heq => heq ▸ ih.mp (heq ▸ hknown)⟩
      · rw [List.mem_append, List.mem_singleton, ih]

theorem nodup_distinct (names : List String) : (distinct names).Nodup := by
  induction names using List.reverseRecOn with
  | nil => exact .nil
  | append_singleton names s ih =>
      rw [distinct_concat]
      split
      · exact ih
      · rename_i hnew
        refine List.nodup_append.mpr ⟨ih, List.nodup_singleton s, ?_⟩
        rintro a ha b hb rfl
        exact hnew (List.mem_singleton.mp hb ▸ ha)

/-- The place is the first one of the name. -/
def IsFirst (places : Places) (path : List Nat) (s : String) : Prop :=
  (path, s) ∈ places ∧ ∀ path', (path', s) ∈ places → ¬ path' < path

/-- A place behind all others is a first one if its name is new. -/
theorem isFirst_concat {places : Places} {last : List Nat × String} {path : List Nat} {s : String}
    (hlast : ∀ e ∈ places, Before e last) :
    IsFirst (places ++ [last]) path s ↔
      IsFirst places path s ∨ (path, s) = last ∧ ∀ path', (path', s) ∉ places := by
  constructor
  · rintro ⟨hmem, hfirst⟩
    have hearlier : ∀ path', (path', s) ∈ places → ¬ path' < path :=
      fun path' h => hfirst path' (List.mem_append_left _ h)
    rcases List.mem_append.mp hmem with hmem | hmem
    · exact .inl ⟨hmem, hearlier⟩
    · have heq := List.mem_singleton.mp hmem
      -- all others stand before it, so none of them has its name
      refine .inr ⟨heq, fun path' h => hearlier path' h ?_⟩
      have hbefore := hlast _ h
      rw [← heq] at hbefore
      exact hbefore
  · rintro (⟨hmem, hfirst⟩ | ⟨rfl, hnew⟩)
    · refine ⟨List.mem_append_left _ hmem, fun path' h => ?_⟩
      rcases List.mem_append.mp h with h | h
      · exact hfirst path' h
      · have hbefore := hlast _ hmem
        rw [← List.mem_singleton.mp h] at hbefore
        exact List.lt_asymm hbefore
    · refine ⟨List.mem_append_right _ List.mem_cons_self, fun path' h => ?_⟩
      rcases List.mem_append.mp h with h | h
      · exact absurd h (hnew path')
      · rw [(Prod.mk.inj (List.mem_singleton.mp h)).1]
        exact List.lt_irrefl path

/-- **Of each name the first place is kept**, and the order of the places. -/
theorem exists_firsts {places : Places} (h : places.Pairwise Before) :
    ∃ firsts : Places, firsts.map Prod.snd = distinct (places.map Prod.snd) ∧
      firsts.Pairwise Before ∧ ∀ path s, (path, s) ∈ firsts ↔ IsFirst places path s := by
  induction places using List.reverseRecOn with
  | nil => exact ⟨[], rfl, .nil, by simp [IsFirst]⟩
  | append_singleton places last ih =>
      obtain ⟨hplaces, -, hlast⟩ := List.pairwise_append.mp h
      have hlast : ∀ e ∈ places, Before e last := fun e he => hlast e he last List.mem_cons_self
      obtain ⟨firsts, hnames, hsorted, hmem⟩ := ih hplaces
      have hknown : last.2 ∈ distinct (places.map Prod.snd) ↔ ∃ path, (path, last.2) ∈ places := by
        simp [mem_distinct_iff]
      rw [List.map_append, List.map_singleton, distinct_concat]
      split
      · -- the name is known
        rename_i hs
        refine ⟨firsts, hnames, hsorted, fun path s => ?_⟩
        rw [hmem, isFirst_concat hlast, or_iff_left]
        rintro ⟨rfl, hnew⟩
        obtain ⟨path', h⟩ := hknown.mp hs
        exact hnew path' h
      · -- the name is new
        rename_i hs
        refine ⟨firsts ++ [last], by rw [List.map_append, hnames]; rfl, ?_, fun path s => ?_⟩
        · refine List.pairwise_append.mpr ⟨hsorted, List.pairwise_singleton _ _, ?_⟩
          rintro ⟨path, s⟩ he last' hlast'
          rw [List.mem_singleton.mp hlast']
          exact hlast _ ((hmem path s).mp he).1
        · rw [List.mem_append, List.mem_singleton, hmem, isFirst_concat hlast]
          refine or_congr_right (iff_self_and.mpr ?_)
          rintro rfl path' h
          exact hs (hknown.mpr ⟨path', h⟩)

namespace Node

/-! ### Pieces in their order -/

/-- What a piece of syntax is directly made of, in the order in which it is written. -/
def inOrder : Node → List Node
  | .stmt (.doWhile s e) => [.stmt s, .expr e]
  | n => n.parts

/-- The piece `m` is at the place in a piece. -/
inductive At (m : Node) : Node → List Nat → Prop where
  | here : At m m []
  | inside {n part : Node} {i : Nat} {path : List Nat} (hpart : n.inOrder[i]? = some part)
      (h : At m part path) : At m n (i :: path)

/-- The piece is a call of `require` with one argument, the text, which is written out. -/
inductive Requires (t : StringValue) : Node → Prop where
  | literal {types : List String} {optional pure : Bool} :
      Requires t (.expr (.call (.name "require") types [.literal (.string t)] optional pure))
  | template {types : List String} {raw : String} {optional pure : Bool} :
      Requires t
        (.expr (.call (.name "require") types [.template [⟨some t, raw⟩] []] optional pure))

/-- What the piece requires by itself. -/
def required? : Node → Option String
  | .expr (.call f _ es _ _) => (Mention.call f es).required?
  | _ => none

theorem required?_eq_some_iff {n : Node} {s : String} :
    n.required? = some s ↔ ∃ t, n.Requires t ∧ t.value = s := by
  constructor
  · intro h
    unfold required? at h
    split at h
    · rename_i f types es optional pure
      unfold Mention.required? at h
      split at h
      · rename_i e heq
        cases heq
        unfold Expr.writtenText? at h
        split at h
        · exact ⟨_, .literal, Option.some.inj h⟩
        · rename_i c
          obtain ⟨t, ht, rfl⟩ := Option.map_eq_some_iff.mp h
          obtain ⟨text, raw⟩ := c
          cases ht
          exact ⟨t, .template, rfl⟩
        · cases h
      · cases h
    · cases h
  · rintro ⟨t, h, rfl⟩
    cases h <;> rfl

/-! ### What is collected, part by part -/

/-- The names that a piece requires, each time. -/
def collected (n : Node) : List String :=
  n.mentions.filterMap Mention.required?

@[simp] theorem required?_variable (s : String) : (Mention.variable s).required? = none :=
  rfl

@[simp] theorem filterMap_variableMentions (names : List String) :
    (variableMentions names).filterMap Mention.required? = [] := by
  simp [variableMentions]

theorem filterMap_flatMap_mentions (ns : List Node) :
    (ns.flatMap mentions).filterMap Mention.required? = ns.flatMap collected := by
  rw [List.filterMap_flatMap]
  rfl

theorem collected_expr (e : Expr) :
    (Node.expr e).collected = (required? (.expr e)).toList ++
      ((inOrder (.expr e)).flatMap mentions).filterMap Mention.required? := by
  cases e
  case call f types es optional pure =>
    simp only [collected, mentions, Expr.mentions, List.filterMap_cons, required?]
    cases (Mention.call f es).required? <;>
      simp [inOrder, parts, mentions, mentionsAll_eq, List.flatMap_map]
  all_goals
    simp [collected, inOrder, parts, mentions, required?, Expr.mentions, mentionsAll_eq,
      mentionsIn_eq, mentionsOfProperties_eq, List.flatMap_map]

theorem collected_stmt (s : Stmt) :
    (Node.stmt s).collected =
      ((inOrder (.stmt s)).flatMap mentions).filterMap Mention.required? := by
  cases s
  case importAlias typeOnly name target => cases target <;> rfl
  case exportNames typeOnly bindings source =>
    cases source <;> simp [collected, inOrder, parts, mentions, Stmt.mentions]
  all_goals
    simp [collected, inOrder, parts, mentions, Stmt.mentions, ofItems_mentions, mentionsIn_eq,
      mentionsOfPatterns_eq, mentionsOfBranch_eq, mentionsOfEnum_eq, List.flatMap_map]

theorem collected_eq (n : Node) :
    n.collected = n.required?.toList ++ n.inOrder.flatMap collected := by
  rw [← filterMap_flatMap_mentions]
  cases n with
  | expr e => exact collected_expr e
  | stmt s => exact collected_stmt s
  | pattern p =>
      cases p <;>
        simp [collected, inOrder, parts, mentions, required?, Pattern.mentions, mentionsAll_eq,
          mentionsOfPatterns_eq, List.flatMap_map]
  | key k =>
      cases k <;> simp [collected, inOrder, parts, mentions, required?, PropertyKey.mentions]
  | property p | enumMember p =>
      cases p <;>
        simp [collected, inOrder, parts, mentions, required?, Property.mentions,
          List.filterMap_cons]
  | function f =>
      rcases f with ⟨⟩
      simp [collected, inOrder, parts, mentions, required?, Function.mentions, ofItems_mentions,
        mentionsOfPatterns_eq, List.flatMap_map]
  | «class» c =>
      rcases c with ⟨⟩
      simp [collected, inOrder, parts, mentions, required?, Class.mentions, mentionsAll_eq,
        mentionsIn_eq, mentionsOfMembers_eq, List.flatMap_map]
  | member m =>
      cases m <;>
        simp [collected, inOrder, parts, mentions, required?, Member.mentions, ofItems_mentions,
          mentionsAll_eq, mentionsIn_eq, List.flatMap_map]

/-! ### Where the names stand -/

/-- The piece requires the text at the place. -/
def RequiresAt (n : Node) (path : List Nat) (t : StringValue) : Prop :=
  ∃ m : Node, m.At n path ∧ m.Requires t

theorem requiresAt_nil_iff {n : Node} {t : StringValue} : n.RequiresAt [] t ↔ n.Requires t := by
  constructor
  · rintro ⟨m, hm, h⟩
    cases hm
    exact h
  · exact fun h => ⟨n, .here, h⟩

theorem requiresAt_cons_iff {n : Node} {i : Nat} {path : List Nat} {t : StringValue} :
    n.RequiresAt (i :: path) t ↔ ∃ part, n.inOrder[i]? = some part ∧ part.RequiresAt path t := by
  constructor
  · rintro ⟨m, hm, h⟩
    cases hm with
    | inside hpart hm => exact ⟨_, hpart, m, hm, h⟩
  · rintro ⟨part, hpart, m, hm, h⟩
    exact ⟨m, .inside hpart hm, h⟩

/-- What a piece requires, it requires by itself, or a part of it does. -/
theorem RequiresAt.here_or_inside {n : Node} {path : List Nat} {t : StringValue}
    (h : n.RequiresAt path t) :
    n.Requires t ∨ ∃ part ∈ n.inOrder, ∃ path, part.RequiresAt path t := by
  cases path with
  | nil => exact .inl (requiresAt_nil_iff.mp h)
  | cons i path =>
      obtain ⟨part, hpart, h⟩ := requiresAt_cons_iff.mp h
      exact .inr ⟨part, List.mem_of_getElem? hpart, path, h⟩

theorem sizeOf_lt_of_mem_toList {α : Type} [SizeOf α] {a : α} : ∀ {o : Option α}, a ∈ o.toList →
    sizeOf a < sizeOf o
  | some b, h => by
      rw [List.mem_singleton.mp h]
      simp

theorem sizeOf_lt_of_mem_ofItems {items : List Item} {part : Node} (h : part ∈ ofItems items) :
    sizeOf part < 1 + sizeOf items := by
  obtain ⟨⟨comments, s⟩, hitem, rfl⟩ := List.mem_map.mp h
  have hlt := List.sizeOf_lt_of_mem hitem
  simp only [Item.stmt, Item.mk.sizeOf_spec, stmt.sizeOf_spec] at hlt ⊢
  omega

/-- Parts are smaller. -/
theorem sizeOf_lt_of_mem_inOrder {n part : Node} (h : part ∈ n.inOrder) :
    sizeOf part < sizeOf n := by
  -- a part is one by itself, or one of a list, or one that can be missing
  cases n with
  | expr x | stmt x | pattern x | key x | property x | enumMember x | function x | «class» x
  | member x =>
      cases x <;>
        simp only [inOrder, parts, List.mem_append, List.mem_cons, List.mem_map, List.not_mem_nil,
          or_false] at h <;>
        grind [→ List.sizeOf_lt_of_mem, → sizeOf_lt_of_mem_toList, → sizeOf_lt_of_mem_ofItems]

/-- The places are all at which the piece requires something, in their order, and what is collected
are the names there. -/
structure Lists (n : Node) (places : Places) : Prop where
  names : places.map Prod.snd = n.collected
  sorted : places.Pairwise Before
  mem_iff : ∀ path s, (path, s) ∈ places ↔ ∃ t, n.RequiresAt path t ∧ t.value = s

/-- The places of a piece are its own, if it requires something by itself, and those of its
parts. -/
theorem lists_of_parts {n : Node} {f : Node → Places}
    (hf : ∀ part ∈ n.inOrder, part.Lists (f part)) :
    n.Lists (n.required?.toList.map (fun s => ([], s)) ++ indexed f 0 n.inOrder) := by
  constructor
  · have hparts : (n.inOrder.flatMap fun part => (f part).map Prod.snd) =
        n.inOrder.flatMap collected :=
      List.flatMap_congr fun part hpart => (hf part hpart).names
    rw [List.map_append, indexed_names, hparts, collected_eq, List.map_map]
    exact congrArg (· ++ _) (List.map_id _)
  · refine List.pairwise_append.mpr
      ⟨?_, indexed_sorted fun part hpart => (hf part hpart).sorted, ?_⟩
    · cases n.required? with
      | none => exact .nil
      | some s => exact List.pairwise_singleton _ _
    · -- the piece stands before its parts
      intro own hown e he
      obtain ⟨s, -, rfl⟩ := List.mem_map.mp hown
      obtain ⟨k, part, path, -, -, hpath⟩ := mem_indexed.mp he
      show [] < e.1
      rw [hpath]
      exact List.nil_lt_cons _ _
  · intro path s
    rw [List.mem_append, List.mem_map, mem_indexed]
    cases path with
    | nil =>
        -- at the front stands only what the piece requires by itself
        rw [or_iff_left]
        · simp only [requiresAt_nil_iff, ← required?_eq_some_iff]
          simp
        · rintro ⟨k, part, path, -, -, hpath⟩
          cases hpath
    | cons i path =>
        rw [or_iff_right]
        · constructor
          · rintro ⟨k, part, path', hpart, hmem, hpath⟩
            obtain ⟨t, ht, hvalue⟩ := ((hf part (List.mem_of_getElem? hpart)).mem_iff _ _).mp hmem
            obtain ⟨rfl, rfl⟩ := List.cons_eq_cons.mp hpath
            rw [Nat.zero_add]
            exact ⟨t, requiresAt_cons_iff.mpr ⟨part, hpart, ht⟩, hvalue⟩
          · rintro ⟨t, ht, hvalue⟩
            obtain ⟨part, hpart, ht⟩ := requiresAt_cons_iff.mp ht
            refine ⟨i, part, path, hpart, ?_, by rw [Nat.zero_add]⟩
            exact ((hf part (List.mem_of_getElem? hpart)).mem_iff _ _).mpr ⟨t, ht, hvalue⟩
        · rintro ⟨s', -, h⟩
          cases h

/-- **What is collected from a piece** stands somewhere in it. -/
theorem exists_lists (n : Node) : ∃ places, n.Lists places := by
  induction hsize : sizeOf n using Nat.strongRecOn generalizing n with
  | _ size ih =>
      have hparts : ∀ part : Node, ∃ places, part ∈ n.inOrder → part.Lists places := by
        intro part
        by_cases hpart : part ∈ n.inOrder
        · obtain ⟨places, h⟩ := ih _ (hsize ▸ sizeOf_lt_of_mem_inOrder hpart) part rfl
          exact ⟨places, fun _ => h⟩
        · exact ⟨[], fun h => absurd h hpart⟩
      choose f hf using hparts
      exact ⟨_, lists_of_parts hf⟩

end Node

/-! ### Programs -/

/-- The names are those required somewhere, each once, in the order in which each is required
first. -/
def IsRequired (requiredAt : List Nat → String → Prop) (names : List String) : Prop :=
  names.Nodup ∧ ∃ firsts : Places, firsts.map Prod.snd = names ∧ firsts.Pairwise Before ∧
    ∀ path s, (path, s) ∈ firsts ↔
      requiredAt path s ∧ ∀ path', requiredAt path' s → ¬ path' < path

/-- A name of such a list is required somewhere. -/
theorem IsRequired.exists_of_mem {requiredAt : List Nat → String → Prop} {names : List String}
    (h : IsRequired requiredAt names) {s : String} (hs : s ∈ names) :
    ∃ path, requiredAt path s := by
  obtain ⟨-, firsts, hnames, -, hmem⟩ := h
  rw [← hnames] at hs
  obtain ⟨⟨path, s⟩, he, rfl⟩ := List.mem_map.mp hs
  exact ⟨path, ((hmem path s).mp he).1⟩

namespace Program

/-- The program requires the text at the place. -/
def RequiresAt (p : Program) (path : List Nat) (t : StringValue) : Prop :=
  (Node.stmt (.block p.items)).RequiresAt path t

/-- **The list of required names** has what is written of each text that is required somewhere,
each once, in the order of their first places. -/
theorem requires_isRequired (p : Program) :
    IsRequired (fun path s => ∃ t, p.RequiresAt path t ∧ t.value = s) p.requires := by
  obtain ⟨places, hlists⟩ := Node.exists_lists (.stmt (.block p.items))
  obtain ⟨firsts, hnames, hsorted, hfirst⟩ := exists_firsts hlists.sorted
  have hrequires : p.requires = distinct (places.map Prod.snd) := by
    rw [hlists.names]
    rfl
  refine ⟨hrequires ▸ nodup_distinct _, firsts, hnames.trans hrequires.symm, hsorted,
    fun path s => ?_⟩
  rw [hfirst]
  exact and_congr (hlists.mem_iff path s)
    (forall_congr' fun path' => imp_congr_left (hlists.mem_iff path' s))

/-- Where no half of a surrogate pair stands alone, what is written of a text is the text. -/
theorem requires_isRequired_of_whole {p : Program}
    (h : ∀ path t, p.RequiresAt path t → t.lone = false) :
    IsRequired (fun path s => p.RequiresAt path ⟨s, false⟩) p.requires := by
  have heq : (fun path s => p.RequiresAt path ⟨s, false⟩) =
      fun path s => ∃ t, p.RequiresAt path t ∧ t.value = s := by
    funext path s
    refine propext ⟨fun hs => ⟨_, hs, rfl⟩, ?_⟩
    rintro ⟨⟨value, lone⟩, ht, rfl⟩
    obtain rfl : lone = false := h path _ ht
    exact ht
  rw [heq]
  exact p.requires_isRequired

/-- The program is one call of `require` with the text. -/
def isCallOf (t : StringValue) (p : Program) : Bool :=
  match p.items with
  | [.mk _ (.expr (.call (.name s) _ [.literal (.string t')] _ _))] => s == "require" && t' == t
  | _ => false

/-- Such a program requires the text and nothing else. -/
theorem eq_of_requiresAt_call {p : Program} {t t' : StringValue} {path : List Nat}
    (hp : p.isCallOf t = true) (h : p.RequiresAt path t') : t' = t := by
  unfold isCallOf at hp
  split at hp
  case h_2 => cases hp
  case h_1 comments s types written optional pure hitems =>
    rw [Bool.and_eq_true, beq_iff_eq, beq_iff_eq] at hp
    obtain ⟨rfl, rfl⟩ := hp
    unfold RequiresAt at h
    rw [hitems] at h
    -- the block, its one statement, and the call
    rcases h.here_or_inside with h | ⟨_, hpart, _, h⟩
    · cases h
    obtain rfl := List.mem_singleton.mp hpart
    rcases h.here_or_inside with h | ⟨_, hpart, _, h⟩
    · cases h
    obtain rfl := List.mem_singleton.mp hpart
    rcases h.here_or_inside with h | ⟨_, hpart, _, h⟩
    · cases h
      rfl
    -- what the call is made of requires nothing
    rcases List.mem_pair.mp hpart with rfl | rfl
    all_goals
      rcases h.here_or_inside with h | ⟨_, hpart, _, h⟩
      · cases h
      · cases hpart

end Program

end StorySuite.Script
