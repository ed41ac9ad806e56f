import StorySuite.Proofs.Synthesis.Planning
import StorySuite.Script.Parser

/-!
# Proofs — Synthesis — what is tested without a filter

Without a filter the default export is left out where the list of exports has more than one name.
That is the law that the default export is tested exactly when it is the only export (`KeepsDefault`),
unless the list has the default export twice or more often and nothing else (`RepeatsDefault`).  Then
nothing is tested.

* `filter_defaultSelection`, `defaultSelection_sublist`: the named exports are kept as they are.
* `defaultSelection_eq_nil_iff`: when nothing is selected.
* **`keepsDefault_iff`**: when the law holds of a list.
* **`defaultSelection_law`**: all of it, with what becomes of the plan.
* `not_forall_keepsDefault`: the overloads of a default export are such a list.
-/

namespace StorySuite.Plan

/-- The default export is selected exactly when it is exported and no named export is. -/
def KeepsDefault (exports : List ExportName) : Prop :=
  .defaultExport ∈ defaultSelection exports ↔
    .defaultExport ∈ exports ∧ ∀ story ∈ exports, story = .defaultExport

/-- The default export is listed more than once, and nothing else is listed. -/
def RepeatsDefault (exports : List ExportName) : Prop :=
  1 < exports.length ∧ ∀ story ∈ exports, story = .defaultExport

section

variable {exports : List ExportName}

theorem isDefault_iff {story : ExportName} : story.isDefault = true ↔ story = .defaultExport := by
  cases story
  simp [ExportName.isDefault, ExportName.defaultExport]

/-- A list of more than one name is left with its named exports. -/
theorem defaultSelection_of_many (h : 1 < exports.length) :
    defaultSelection exports = exports.filter (!·.isDefault) :=
  if_neg (Nat.not_le.mpr h)

/-- A list of one name at most is left as it is. -/
theorem defaultSelection_of_few (h : exports.length ≤ 1) : defaultSelection exports = exports :=
  if_pos h

theorem defaultSelection_sublist (exports : List ExportName) :
    (defaultSelection exports).Sublist exports := by
  rcases Nat.lt_or_ge 1 exports.length with h | h
  · rw [defaultSelection_of_many h]
    exact List.filter_sublist
  · rw [defaultSelection_of_few h]

/-- **Named exports are selected as they are listed**, as often and in that order. -/
theorem filter_defaultSelection (exports : List ExportName) :
    (defaultSelection exports).filter (!·.isDefault) = exports.filter (!·.isDefault) := by
  rcases Nat.lt_or_ge 1 exports.length with h | h
  · rw [defaultSelection_of_many h, List.filter_filter]
    simp only [Bool.and_self]
  · rw [defaultSelection_of_few h]

/-- Only default exports are listed exactly when no name is left. -/
theorem filter_eq_nil_iff :
    exports.filter (!·.isDefault) = [] ↔ ∀ story ∈ exports, story = .defaultExport := by
  simp only [List.filter_eq_nil_iff, Bool.not_eq_true, Bool.not_eq_false', isDefault_iff]

theorem defaultSelection_eq_nil_iff :
    defaultSelection exports = [] ↔ exports = [] ∨ RepeatsDefault exports := by
  rcases Nat.lt_or_ge 1 exports.length with h | h
  · have hne : exports ≠ [] := List.ne_nil_of_length_pos (Nat.zero_lt_of_lt h)
    rw [defaultSelection_of_many h, filter_eq_nil_iff]
    exact ⟨fun hall => .inr ⟨h, hall⟩, fun hor => (hor.resolve_left hne).2⟩
  · rw [defaultSelection_of_few h]
    exact ⟨.inl, fun hor => hor.resolve_right fun hrepeats => absurd hrepeats.1 (Nat.not_lt.mpr h)⟩

/-- **The default export is selected exactly when it is the only export**, unless the list repeats
it and has nothing else. -/
theorem keepsDefault_iff : KeepsDefault exports ↔ ¬ RepeatsDefault exports := by
  unfold KeepsDefault
  rcases Nat.lt_or_ge 1 exports.length with h | h
  · -- the default export is left out
    have hout : .defaultExport ∉ defaultSelection exports := by
      rw [defaultSelection_of_many h, List.mem_filter, Bool.not_eq_true']
      rintro ⟨-, hnamed⟩
      cases hnamed
    have hin : (∀ story ∈ exports, story = .defaultExport) → .defaultExport ∈ exports := by
      obtain ⟨first, rest, rfl⟩ := List.exists_cons_of_length_pos (Nat.zero_lt_of_lt h)
      intro hall
      rw [← hall first List.mem_cons_self]
      exact List.mem_cons_self
    simp only [hout, false_iff, RepeatsDefault, h, true_and]
    exact not_congr ⟨And.right, fun hall => ⟨hin hall, hall⟩⟩
  · -- the only name, if there is one, is the default export or not
    have hnot : ¬ RepeatsDefault exports := fun hrepeats => absurd hrepeats.1 (Nat.not_lt.mpr h)
    rw [defaultSelection_of_few h]
    refine iff_of_true ⟨fun hmem => ⟨hmem, fun story hstory => ?_⟩, And.left⟩ hnot
    obtain ⟨only, rfl⟩ := List.length_eq_one_iff.mp
      (Nat.le_antisymm h (List.length_pos_of_mem hmem))
    rw [List.mem_singleton.mp hstory, List.mem_singleton.mp hmem]

/-- A list that names nothing twice does not repeat the default export. -/
theorem not_repeatsDefault_of_nodup (h : exports.Nodup) : ¬ RepeatsDefault exports := by
  rintro ⟨hlength, hall⟩
  match exports, h, hlength, hall with
  | first :: second :: rest, h, _, hall =>
      have heq : first = second :=
        (hall first (by simp)).trans (hall second (by simp)).symm
      exact (List.nodup_cons.mp h).1 (heq ▸ List.mem_cons_self)

end

/-- **What is tested without a filter.**  Of every list of exports the named ones are selected as
often as and in the order in which they are listed, and nothing is selected that is not listed.  The
default export is selected exactly when it is the only export, unless the list has it more than once
and nothing else, which no list without repetitions does.  A plan without a filter is empty exactly
when there is no export or the list is such a one, whatever the module and the request are, as far
as the data for it is supplied. -/
theorem defaultSelection_law (exports : List ExportName) :
    (defaultSelection exports).Sublist exports ∧
    (defaultSelection exports).filter (!·.isDefault) = exports.filter (!·.isDefault) ∧
    (KeepsDefault exports ↔ ¬ RepeatsDefault exports) ∧
    (exports.Nodup → KeepsDefault exports) ∧
    ∀ (module : ModuleReference) (d : Descriptor),
      (resolve exports module { d with filter := none }).start.1 = .ok [] ↔
        (exports = [] ∨ RepeatsDefault exports) ∧ Answers d.data [] := by
  refine ⟨defaultSelection_sublist exports, filter_defaultSelection exports, keepsDefault_iff,
    fun hnodup => keepsDefault_iff.mpr (not_repeatsDefault_of_nodup hnodup), fun module d => ?_⟩
  have hselection : selection { d with filter := none } exports module.realPath =
      .ok (defaultSelection exports) := rfl
  rw [resolve_eq_ok_iff, ← defaultSelection_eq_nil_iff]
  constructor
  · rintro ⟨selected, hselected, -, hanswers, hplan⟩
    obtain rfl : defaultSelection exports = selected :=
      Except.ok.inj (hselection.symm.trans hselected)
    have hnil : defaultSelection exports = [] := List.map_eq_nil_iff.mp hplan.symm
    rw [hnil] at hanswers
    exact ⟨hnil, hanswers⟩
  · rintro ⟨hnil, hanswers⟩
    exact ⟨[], hselection.trans (congrArg _ hnil), List.forall_mem_nil _, hanswers, rfl⟩

/-- A module that declares its default export for two kinds of arguments. -/
def overloadedDefault : String :=
  "export default function f(x: string): void;\nexport default function f(x: any) \x7b\x7d"

/-- **The default export is not always selected when it is the only one**: that module has no other
export, its default export is listed twice, and nothing is selected. -/
theorem not_forall_keepsDefault :
    (Script.Program.parse? { dialect := .ts, isModule := true } overloadedDefault).map
        (fun program => program.exports.map ExportName.mk) =
      some [.defaultExport, .defaultExport] ∧
    defaultSelection [.defaultExport, .defaultExport] = [] ∧
    ¬ ∀ exports, KeepsDefault exports := by
  refine ⟨by decide +kernel, rfl, fun hall => ?_⟩
  have hkeeps := hall [.defaultExport, .defaultExport]
  rw [keepsDefault_iff] at hkeeps
  exact hkeeps ⟨by decide, by decide⟩

end StorySuite.Plan
