import Mathlib.Logic.Basic
import StorySuite.Script.Inspection

/-!
# Proofs — Script — who sees a default export

A module is looked at twice: `Program.exports` lists the names that it exports, and
`Program.defaultShape` says what its default export holds.  Both see a default export that is
written as one, and one that is exported by name as a value.  Beside these, what is exported by name
as a type is seen by the second only, and a module that is exported under the name of the default
export is seen by the first only.

* `defaultShape_absent_iff`, `default_mem_exports_iff`: what each of the two sees.
* `absent_iff_not_listed_iff`: they agree on whether there is a default export exactly when there
  is one that both see, or one that only the first sees is there together with one that only the
  second sees.

They do not agree on every module: `not_forall_absent_iff_not_listed`.
-/

namespace StorySuite.Script

namespace Stmt

/-- The statement gives the module a default export, as a value. -/
inductive GivesDefault : Stmt → Prop where
  | written {s : Stmt} : GivesDefault (.exportDefault s)
  | named {bindings : List ExportBinding} {source : Option ModuleSource} {b : ExportBinding}
      (hb : b ∈ bindings) (hname : b.exported.text = "default") (hvalue : b.typeOnly = false) :
      GivesDefault (.exportNames false bindings source)

/-- The statement exports a type under the name of the default export. -/
inductive TypesDefault : Stmt → Prop where
  | all {bindings : List ExportBinding} {source : Option ModuleSource} {b : ExportBinding}
      (hb : b ∈ bindings) (hname : b.exported.text = "default") :
      TypesDefault (.exportNames true bindings source)
  | one {typeOnly : Bool} {bindings : List ExportBinding} {source : Option ModuleSource}
      {b : ExportBinding} (hb : b ∈ bindings) (hname : b.exported.text = "default")
      (htype : b.typeOnly = true) : TypesDefault (.exportNames typeOnly bindings source)

/-- The statement exports a module, or a variable, under the name of the default export without
saying that it is one.  No variable can be declared under that name. -/
inductive CoversDefault : Stmt → Prop where
  | module {as : ModuleName} {source : ModuleSource} (hname : as.text = "default") :
      CoversDefault (.exportAll false (some as) source)
  | variable {s : Stmt} (h : "default" ∈ s.declaredValues) : CoversDefault (.exportDeclaration s)

theorem defaultTarget?_isSome_iff (s : Stmt) :
    s.defaultTarget?.isSome ↔ s.GivesDefault ∨ s.TypesDefault := by
  constructor
  · intro h
    unfold defaultTarget? at h
    split at h
    case h_1 e => exact .inl .written
    case h_2 s _ => exact .inl .written
    case h_3 typeOnly bindings source =>
      rw [Option.isSome_map] at h
      obtain ⟨b, hfind⟩ := Option.isSome_iff_exists.mp h
      have hb := List.mem_of_find?_eq_some hfind
      have hname : b.exported.text = "default" := by simpa using List.find?_some hfind
      -- the name is exported as a type when it is marked so, or the whole list is
      cases typeOnly with
      | true => exact .inr (.all hb hname)
      | false =>
          cases htype : b.typeOnly with
          | true => exact .inr (.one hb hname htype)
          | false => exact .inl (.named hb hname htype)
    case h_4 => cases h
  · have hnamed : ∀ {typeOnly : Bool} {bindings : List ExportBinding}
        {source : Option ModuleSource} {b : ExportBinding}, b ∈ bindings →
        b.exported.text = "default" →
        ((exportNames typeOnly bindings source).defaultTarget?).isSome := by
      intro typeOnly bindings source b hb hname
      simp only [defaultTarget?, Option.isSome_map, List.find?_isSome]
      exact ⟨b, hb, by simp [hname]⟩
    rintro (h | h)
    · cases h with
      | @written s => cases s <;> rfl
      | named hb hname _ => exact hnamed hb hname
    · cases h with
      | all hb hname => exact hnamed hb hname
      | one hb hname _ => exact hnamed hb hname

theorem default_mem_exports_iff (s : Stmt) :
    "default" ∈ s.exports ↔ s.GivesDefault ∨ s.CoversDefault := by
  constructor
  · intro h
    unfold exports at h
    split at h
    case h_1 => exact .inl .written
    case h_2 s => exact .inr (.variable h)
    case h_3 bindings source =>
      obtain ⟨b, hb, hname⟩ := List.mem_map.mp h
      obtain ⟨hb, hvalue⟩ := List.mem_filter.mp hb
      exact .inl (.named hb hname (by simpa using hvalue))
    case h_4 as source => exact .inr (.module (List.mem_singleton.mp h).symm)
    case h_5 => exact absurd h List.not_mem_nil
  · rintro (h | h)
    · cases h with
      | written => exact List.mem_cons_self
      | named hb hname hvalue =>
          exact List.mem_map.mpr ⟨_, List.mem_filter.mpr ⟨hb, by simp [hvalue]⟩, hname⟩
    · cases h with
      | module hname => exact List.mem_singleton.mpr hname.symm
      | «variable» h => exact h

end Stmt

namespace Program

/-- A statement of the module is such. -/
def HasStmt (p : Program) (P : Stmt → Prop) : Prop :=
  ∃ i ∈ p.items, P i.stmt

theorem hasStmt_or {p : Program} {P Q : Stmt → Prop} :
    p.HasStmt (fun s => P s ∨ Q s) ↔ p.HasStmt P ∨ p.HasStmt Q := by
  constructor
  · rintro ⟨i, hi, h | h⟩
    · exact .inl ⟨i, hi, h⟩
    · exact .inr ⟨i, hi, h⟩
  · rintro (⟨i, hi, h⟩ | ⟨i, hi, h⟩)
    · exact ⟨i, hi, .inl h⟩
    · exact ⟨i, hi, .inr h⟩

/-- A default export is inspected when there is one that is given as a value or as a type. -/
theorem defaultShape_absent_iff (p : Program) (namespaces : List String) :
    p.defaultShape namespaces = .absent ↔
      ¬ (p.HasStmt Stmt.GivesDefault ∨ p.HasStmt Stmt.TypesDefault) := by
  have hshape : p.defaultShape namespaces = .absent ↔ p.defaultTarget? = none := by
    unfold defaultShape
    split
    case h_1 hnone => simp [hnone]
    case h_2 target hsome =>
      simp only [hsome, reduceCtorEq, iff_false]
      split <;> exact DefaultShape.noConfusion
  have htarget : p.defaultTarget?.isSome ↔
      p.HasStmt (fun s => s.GivesDefault ∨ s.TypesDefault) := by
    simp only [defaultTarget?, List.findSome?_isSome_iff, Stmt.defaultTarget?_isSome_iff]
    rfl
  rw [hshape, ← hasStmt_or, ← htarget, Option.not_isSome_iff_eq_none]

/-- A default export is listed when there is one that is given as a value, or when something else is
exported under its name. -/
theorem default_mem_exports_iff (p : Program) :
    "default" ∈ p.exports ↔ p.HasStmt Stmt.GivesDefault ∨ p.HasStmt Stmt.CoversDefault := by
  rw [← hasStmt_or]
  simp only [exports, List.mem_flatMap, Stmt.default_mem_exports_iff]
  rfl

/-- **The two agree on whether there is a default export** exactly when there is one that both see,
or when one that only the first sees and one that only the second sees are there together, or
neither is. -/
theorem absent_iff_not_listed_iff (p : Program) (namespaces : List String) :
    (p.defaultShape namespaces = .absent ↔ "default" ∉ p.exports) ↔
      (p.HasStmt Stmt.GivesDefault ∨
        (p.HasStmt Stmt.TypesDefault ↔ p.HasStmt Stmt.CoversDefault)) := by
  rw [defaultShape_absent_iff, default_mem_exports_iff]
  by_cases hgives : p.HasStmt Stmt.GivesDefault
  · simp [hgives]
  · simp [hgives, not_iff_not]

/-- `export * as default from "./x"`. -/
def moduleAsDefault : Program where
  items := [.plain (.exportAll false (some ⟨"default", false⟩) ⟨⟨"./x", false⟩, none⟩)]

/-- `type D = {}; export type {D as default}`. -/
def typeAsDefault : Program where
  items := [.plain (.typeName "D" []),
    .plain (.exportNames true [⟨⟨"D", false⟩, ⟨"default", false⟩, false⟩] none)]

/-- A module under the name of the default export is only listed, and a type is only inspected. -/
theorem not_forall_absent_iff_not_listed :
    (moduleAsDefault.defaultShape [] = .absent ∧ "default" ∈ moduleAsDefault.exports) ∧
      (typeAsDefault.defaultShape [] ≠ .absent ∧ "default" ∉ typeAsDefault.exports) := by
  refine ⟨⟨rfl, by decide⟩, ?_, by decide⟩
  rw [ne_eq, defaultShape_absent_iff, not_not]
  exact .inr ⟨_, .tail _ (.head _), .all (.head _) rfl⟩

end Program

end StorySuite.Script
