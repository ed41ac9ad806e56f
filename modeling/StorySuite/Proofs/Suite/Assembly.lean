import StorySuite.Proofs.Synthesis.Order
import StorySuite.Proofs.Template.Independence
import StorySuite.Proofs.Template.Texts

/-!
# Proofs — Suite — the tests in a suite

The tests are the last thing that the text of a suite asks for.  They are put there as they are, one
after the other and each on lines of its own, and what stands in front of them is the same for all
tests (`Suite.around`).

* **`Suite.textOf_eq_around`**: the text of a suite.
* `Suite.assemble_eq_ok_iff`: when there is one.
-/

namespace StorySuite

namespace Template

/-- What stands in front of the tests in the template of a suite. -/
def suiteFront : List TemplatePiece :=
  suite.dropLast.dropLast

/-- The place of the tests. -/
def suiteTests : TemplatePiece :=
  .each "item" (.var "items") none [.text "\n", .put (.var "item"), .text "\n"]

theorem suite_eq : suite = suiteFront ++ ([suiteTests] ++ [.text "\x7d);"]) :=
  rfl

/-- Nothing in front of the tests asks for them. -/
theorem not_mem_asks_suiteFront : "items" ∉ asks suiteFront := by
  decide

end Template

namespace Suite

open Template

variable {module : ModuleReference} {stories : List ExportName} {shape : Option DefaultShape}
  {options : SuiteOptions}

/-- The text of a suite around its tests. -/
def around (front : String) (tests : List String) : String :=
  front ++ String.join (tests.map fun test => "\n" ++ test ++ "\n") ++ "\x7d);"

/-- The text of a suite before its tests. -/
def frontOf (module : ModuleReference) (stories : List ExportName) (shape : Option DefaultShape)
    (options : SuiteOptions) : String :=
  (renderPieces? (bindings module stories [] shape options (options.settings.map settingBinding))
    suiteFront).getD ""

/-- Suites of one module with other tests differ in what is bound to the tests' name. -/
theorem bindings_agree (tests tests' : List String) (settings : List Json.Value)
    {names : List String} (h : "items" ∉ names) :
    Agree (bindings module stories tests shape options settings)
      (bindings module stories tests' shape options settings) names := by
  intro n hn
  have hne : "items" ≠ n := fun heq => h (heq ▸ hn)
  simp only [bindings, DataMap.get?_cons, DataMap.get?_nil, if_neg hne]

/-- The tests are put where they belong, as they are. -/
theorem renderPieces?_suiteTests (tests : List String) (settings : List Json.Value) :
    renderPieces? (bindings module stories tests shape options settings) [suiteTests] =
      some (String.join (tests.map fun test => "\n" ++ test ++ "\n")) := by
  have hitems : eval? (bindings module stories tests shape options settings) (.var "items") =
      some (.array (tests.map Json.Value.string)) := rfl
  refine renderPieces?_each hitems fun test _ => ?_
  simp [renderPieces?, renderPiece?, eval?, DataMap.get?_cons, shown, String.append_assoc]

/-- **The text of a suite** is its tests, in their order and as they are, in a frame that is the
same for all tests. -/
theorem textOf_eq_around (tests : List String) :
    textOf module stories tests shape options =
      around (frontOf module stories shape options) tests := by
  obtain ⟨text, htext⟩ := Option.isSome_iff_exists.mp
    (renderPieces?_isSome _ _ (supplied_suite module stories tests shape options options.settings))
  have hfront : renderPieces? (bindings module stories [] shape options
      (options.settings.map settingBinding)) suiteFront =
      renderPieces? (bindings module stories tests shape options
        (options.settings.map settingBinding)) suiteFront :=
    renderPieces?_congr suiteFront (bindings_agree [] tests _ not_mem_asks_suiteFront)
  have hrender := htext
  rw [suite_eq] at hrender
  obtain ⟨front, last, hfirst, hlast, rfl⟩ :=
    renderPieces?_between hrender (renderPieces?_suiteTests tests _)
  have hend : last = "\x7d);" := by
    simpa [renderPieces?, renderPiece?, eq_comm] using hlast
  unfold textOf frontOf around
  rw [htext, hfront, hfirst, hend, Option.getD_some, Option.getD_some, String.append_assoc]

/-- There is a suite exactly if all settings are paths of names. -/
theorem assemble_eq_ok_iff {tests : List String} {suite : String} :
    (assemble module stories tests shape options).start.1 = .ok suite ↔
      invalidKey? options.settings = none ∧
        suite = around (frontOf module stories shape options) tests := by
  rw [(assemble_follows module stories tests shape options).start, ← textOf_eq_around]
  unfold settingsStep Run.outcome Step.error? Step.check
  cases invalidKey? options.settings with
  | none => simp [eq_comm]
  | some key => simp

end Suite

end StorySuite
