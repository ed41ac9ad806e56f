import StorySuite.Proofs.Script.Catalog
import StorySuite.Proofs.Script.DefaultExport
import StorySuite.Proofs.Script.Memory
import StorySuite.Proofs.Script.Reference

/-!
# Proofs — Script — the value of a default export

What a module's default export is when the module has run: `DefaultValue`.  It is the value of an
expression or of a variable.  A constant that nothing but the export refers to has the value that
its declaration gives it; of other variables nothing is said.

* `not_usesBeside`: a variable that is mentioned once, by the export, is referred to nowhere else.
* `Stmt.bindsDefault_of_defaultTarget?`: what the inspection takes for the default export is one,
  when no type is exported under its name.
-/

namespace StorySuite.Script

/-- The expression is a variable, maybe in parentheses or with a type. -/
inductive Expr.IsName : Expr → String → Prop where
  | name {s : String} : IsName (.name s) s
  | paren {e : Expr} {s : String} (h : e.IsName s) : IsName (.paren e) s
  | cast {form : CastForm} {types : List String} {e : Expr} {s : String} (h : e.IsName s) :
      IsName (.cast form types e) s

namespace Stmt

/-- The statement makes that the default export of its module. -/
inductive BindsDefault : Stmt → DefaultTarget → Prop where
  | value {e : Expr} : BindsDefault (.exportDefault (.expr e)) (.value e)
  | function {f : Function} (hf : f.isMissing = false) :
      BindsDefault (.exportDefault (.function f)) .other
  | class {c : Class} : BindsDefault (.exportDefault (.class c)) .other
  | variable {bindings : List ExportBinding} {b : ExportBinding} (hb : b ∈ bindings)
      (hname : b.exported.text = "default") (hvalue : b.typeOnly = false) :
      BindsDefault (.exportNames false bindings none) (.variable b.name.text)
  | foreign {bindings : List ExportBinding} {source : ModuleSource} {b : ExportBinding}
      (hb : b ∈ bindings) (hname : b.exported.text = "default") (hvalue : b.typeOnly = false) :
      BindsDefault (.exportNames false bindings (some source)) .other
  | module {as : ModuleName} {source : ModuleSource} (hname : as.text = "default") :
      BindsDefault (.exportAll false (some as) source) .other

/-- The statement declares the constant by the pattern, which is given the value of the
expression. -/
inductive Initializes : Stmt → String → Pattern → Expr → Prop where
  | plain {ps : List Pattern} {s : String} {p : Pattern} {e : Expr} (hp : .withDefault p e ∈ ps)
      (hs : s ∈ p.declared) : Initializes (.declaration .const ps) s p e
  | exported {ps : List Pattern} {s : String} {p : Pattern} {e : Expr}
      (hp : .withDefault p e ∈ ps) (hs : s ∈ p.declared) :
      Initializes (.exportDeclaration (.declaration .const ps)) s p e

/-- The statement does nothing with variables but to export them. -/
inductive OnlyExports : Stmt → Prop where
  | names {typeOnly : Bool} {bindings : List ExportBinding} {source : Option ModuleSource} :
      OnlyExports (.exportNames typeOnly bindings source)
  | value {e : Expr} {s : String} (he : e.IsName s) : OnlyExports (.exportDefault (.expr e))

end Stmt

/-- What is exported is the variable. -/
inductive DefaultTarget.IsVariable : DefaultTarget → String → Prop where
  | value {e : Expr} {s : String} (he : e.IsName s) : IsVariable (.value e) s
  | variable {s : String} : IsVariable (.variable s) s

namespace Program

/-- A statement that does more than to export variables refers to the variable. -/
def UsesBeside (p : Program) (s : String) : Prop :=
  p.HasStmt fun t => ¬ t.OnlyExports ∧ (Node.stmt t).Refers s

/-- The variable may have the value when the module has run: a constant that is not used has the
value that its declaration gives it. -/
def VariableValue (p : Program) (m : Memory) (s : String) (v : m.Value) : Prop :=
  ∀ pat e, p.HasStmt (·.Initializes s pat e) → ¬ p.UsesBeside s →
    ∃ u, Evaluates m e u ∧ Takes m pat u s v

/-- What is exported as the default may have the value. -/
def TargetValue (p : Program) (m : Memory) (t : DefaultTarget) (v : m.Value) : Prop :=
  (∀ e, t = .value e → Evaluates m e v) ∧ ∀ s, t.IsVariable s → p.VariableValue m s v

/-- The module has one default export, and it may have the value when the module has run. -/
def DefaultValue (p : Program) (m : Memory) (v : m.Value) : Prop :=
  ∃ t, p.HasStmt (·.BindsDefault t) ∧ (∀ t', p.HasStmt (·.BindsDefault t') → t' = t) ∧
    p.TargetValue m t v

end Program

theorem Expr.IsName.mem_mentions {e : Expr} {s : String} (h : e.IsName s) :
    .variable s ∈ e.mentions := by
  induction h with
  | name => exact List.mem_singleton_self _
  | paren _ ih => exact ih
  | cast _ ih => exact List.mem_append_left _ ih

/-! ### The value of what is written out -/

theorem Expr.isName_of_inner {s : String} : ∀ {e : Expr}, e.inner = .name s → e.IsName s
  | .paren _, h => .paren (isName_of_inner h)
  | .cast _ _ _, h => .cast (isName_of_inner h)
  | .name _, h => by
      obtain rfl := Expr.name.inj h
      exact .name

/-- An object that is written out is the value of the expression. -/
theorem Evaluates.of_inner {m : Memory} {v : m.Value} {ps : List Property} :
    ∀ {e : Expr}, Evaluates m e v → e.inner = .object ps →
      ∃ d, Fills m ps (.start m) d ∧ m.Holds v d
  | .paren _, .paren h, hin => h.of_inner hin
  | .cast _ _ _, .cast h, hin => h.of_inner hin
  | .object _, .object hd hv, hin => by
      obtain rfl := Expr.object.inj hin
      exact ⟨_, hd, hv⟩

theorem Expr.inner_of_written? {e : Expr} {ps : List Property} (h : e.written? = some ps) :
    e.inner = .object ps := by
  unfold written? at h
  split at h
  case h_1 hin =>
    obtain rfl := Option.some.inj h
    exact hin
  case h_2 => cases h

/-! ### Mentions beside the export -/

theorem one_le_countP_flatMap {α β : Type} {q : β → Bool} {f : α → List β} {a : α} {xs : List α}
    (ha : a ∈ xs) (hq : ∃ b ∈ f a, q b = true) : 1 ≤ (xs.flatMap f).countP q := by
  obtain ⟨b, hb, hq⟩ := hq
  exact List.countP_pos_iff.mpr ⟨b, List.mem_flatMap.mpr ⟨a, ha, hb⟩, hq⟩

/-- What two members of a list have is counted twice. -/
theorem two_le_countP_flatMap {α β : Type} {q : β → Bool} {f : α → List β} {a b : α} :
    ∀ {xs : List α}, a ∈ xs → b ∈ xs → a ≠ b → (∃ c ∈ f a, q c = true) →
      (∃ c ∈ f b, q c = true) → 2 ≤ (xs.flatMap f).countP q
  | x :: xs, ha, hb, hne, hqa, hqb => by
      rw [List.flatMap_cons, List.countP_append]
      rcases List.mem_cons.mp ha with rfl | ha'
      · have hb' : b ∈ xs := List.mem_of_ne_of_mem hne.symm hb
        exact Nat.add_le_add (List.countP_pos_iff.mpr hqa) (one_le_countP_flatMap hb' hqb)
      · rcases List.mem_cons.mp hb with rfl | hb'
        · exact Nat.add_le_add (List.countP_pos_iff.mpr hqb) (one_le_countP_flatMap ha' hqa)
        · exact Nat.le_add_left_of_le (two_le_countP_flatMap ha' hb' hne hqa hqb)

/-- A variable that two statements mention is mentioned twice. -/
theorem Program.two_le_mentionCount {p : Program} {s : String} {i j : Item} (hi : i ∈ p.items)
    (hj : j ∈ p.items) (hne : i ≠ j) (hmi : .variable s ∈ i.stmt.mentions)
    (hmj : .variable s ∈ j.stmt.mentions) : 2 ≤ p.mentionCount s := by
  rw [mentionCount, mentions, mentionsOfItems_eq]
  exact two_le_countP_flatMap hi hj hne ⟨_, hmi, beq_self_eq_true s⟩ ⟨_, hmj, beq_self_eq_true s⟩

/-! ### What the inspection looks at -/

namespace Stmt

/-- A statement that makes a variable the default export mentions it and does no more. -/
theorem BindsDefault.of_variable {s : Stmt} {t : DefaultTarget} {name : String}
    (h : s.BindsDefault t) (ht : t.IsVariable name) :
    s.OnlyExports ∧ .variable name ∈ s.mentions := by
  cases ht with
  | value he =>
      cases h
      exact ⟨.value he, he.mem_mentions⟩
  | «variable» =>
      cases h with
      | «variable» hb _ _ =>
          exact ⟨.names, List.mem_map.mpr ⟨_, hb, rfl⟩⟩

/-- What is taken for the default export is a default export, unless it is a type or is not looked
into. -/
theorem bindsDefault_of_defaultTarget? {s : Stmt} {t : DefaultTarget}
    (h : s.defaultTarget? = some t) (ht : t ≠ .other) (htype : ¬ s.TypesDefault) :
    s.BindsDefault t := by
  unfold defaultTarget? at h
  split at h
  case h_1 e =>
    obtain rfl := Option.some.inj h
    exact .value
  case h_2 => exact absurd (Option.some.inj h).symm ht
  case h_3 typeOnly bindings source =>
    obtain ⟨b, hfind, htarget⟩ := Option.map_eq_some_iff.mp h
    have hb := List.mem_of_find?_eq_some hfind
    have hname : b.exported.text = "default" := by simpa using List.find?_some hfind
    cases typeOnly with
    | true => exact absurd (.all hb hname) htype
    | false =>
        cases hvalue : b.typeOnly with
        | true => exact absurd (.one hb hname hvalue) htype
        | false =>
            cases source with
            | none =>
                obtain rfl : .variable b.name.text = t := htarget
                exact .variable hb hname hvalue
            | some source => exact absurd htarget.symm ht
  case h_4 => cases h

end Stmt

namespace Program

/-- **A variable that is mentioned once, by the export, is referred to nowhere else.** -/
theorem not_usesBeside {p : Program} {t : DefaultTarget} {s : String}
    (ht : p.HasStmt (·.BindsDefault t)) (hs : t.IsVariable s) (hcount : p.mentionCount s ≤ 1) :
    ¬ p.UsesBeside s := by
  rintro ⟨j, hj, hmore, hrefers⟩
  obtain ⟨i, hi, hbinds⟩ := ht
  obtain ⟨honly, hmentions⟩ := hbinds.of_variable hs
  have hne : i ≠ j := by
    rintro rfl
    exact hmore honly
  -- the export is one mention, and what refers to the variable would be another
  have hmj : .variable s ∈ j.stmt.mentions := Node.mem_mentions_of_refers hrefers
  have htwo := two_le_mentionCount hi hj hne hmentions hmj
  omega

/-- An object that a constant is, is the value that a declaration of the constant is given. -/
theorem constant?_spec {p : Program} {s : String} {ps : List Property}
    (h : p.constant? s = some ps) :
    p.mentionCount s ≤ 1 ∧ ∃ i ∈ p.items, ∃ pat e, .withDefault pat e ∈ i.stmt.constants ∧
      s ∈ pat.declared ∧ e.written? = some ps := by
  unfold constant? at h
  split at h
  case isTrue => cases h
  case isFalse hcount =>
    obtain ⟨i, hi, hconstant⟩ := List.exists_of_findSome?_eq_some h
    obtain ⟨q, hq, hgiven⟩ := List.exists_of_findSome?_eq_some hconstant
    refine ⟨Nat.not_lt.mp hcount, i, hi, ?_⟩
    split at hgiven
    case h_1 pat e =>
      split at hgiven
      case isTrue hs => exact ⟨pat, e, hq, by simpa using hs, hgiven⟩
      case isFalse => cases hgiven
    case h_2 => cases hgiven

end Program

end StorySuite.Script
