import StorySuite.Proofs.Suite.EmbeddedData
import StorySuite.Proofs.Synthesis.Order
import StorySuite.Proofs.Template.Independence
import StorySuite.Proofs.Template.Spans

/-!
# Proofs — Suite — tests whose steps are awaited

A test is written by one template, be its steps awaited or not.  The template asks for the style in
front of the callback, and at the callback's steps; what stands between these places is the same in
both styles (`Template.Cut`).

* `Template.renderPieces?_suspended`: the text of such a template in either style.
* **`Item.synthesize_in_styles`**: the test of a module's function in the two styles, and where its
  text speaks of awaiting.
-/

namespace StorySuite

namespace Template

/-! ### Templates with steps -/

/-- The place where a callback is told to be asynchronous. -/
def suspensionMark : TemplatePiece :=
  .choice (.equals (.var "suspension") (.text "async")) [.text "async "] []

/-- Steps, each with what is written behind it. -/
def stepped (steps : List (TemplateExpr × List TemplatePiece)) : List TemplatePiece :=
  steps.flatMap fun s => .put (.step s.1) :: s.2

/-- A template that writes a callback with steps: what is in front of the callback, the callback up
to its first step, and the steps. -/
def suspended (head front : List TemplatePiece)
    (steps : List (TemplateExpr × List TemplatePiece)) : List TemplatePiece :=
  head ++ (suspensionMark :: (front ++ stepped steps))

/-- A text that is cut in front of a callback and around the callback's steps. -/
structure Cut where
  /-- What is in front of the callback. -/
  head : String
  /-- The callback up to its first step. -/
  front : String
  /-- The steps, each with what is behind it. -/
  steps : List (String × String)

namespace Cut

/-- The text with its steps awaited or not. -/
def text (cut : Cut) : Suspension → String
  | .sync => cut.head ++ cut.front ++ String.join (cut.steps.map fun s => s.1 ++ s.2)
  | .async =>
    cut.head ++ "async " ++ cut.front ++
      String.join (cut.steps.map fun s => "await Promise.resolve(" ++ s.1 ++ ")" ++ s.2)

/-- What bindings make of a template, cut. -/
def of (b : Bindings) (head front : List TemplatePiece)
    (steps : List (TemplateExpr × List TemplatePiece)) : Cut where
  head := (renderPieces? b head).getD ""
  front := (renderPieces? b front).getD ""
  steps := steps.map fun s =>
    (((eval? b s.1).map shown).getD "", (renderPieces? b s.2).getD "")

/-- Bindings that bind alike what is asked for make one text, cut alike. -/
theorem of_congr {b b' : Bindings} {head front : List TemplatePiece}
    {steps : List (TemplateExpr × List TemplatePiece)} (hhead : Agree b b' (asks head))
    (hfront : Agree b b' (asks front))
    (hsteps : ∀ s ∈ steps, Agree b b' (exprAsks s.1) ∧ Agree b b' (asks s.2)) :
    of b head front steps = of b' head front steps := by
  unfold of
  rw [renderPieces?_congr head hhead, renderPieces?_congr front hfront]
  congr 1
  refine List.map_congr_left fun s hs => ?_
  obtain ⟨hstep, hbehind⟩ := hsteps s hs
  rw [eval?_congr s.1 hstep, renderPieces?_congr s.2 hbehind]

end Cut

variable {b : Bindings} {style : Suspension}

theorem isAsync_of_get? (h : b.get? "suspension" = some (.string style.name)) :
    isAsync b = (style == .async) := by
  unfold isAsync
  rw [h]
  cases style <;> rfl

/-- What tells that a callback is asynchronous. -/
def asyncWord : Suspension → String
  | .sync => ""
  | .async => "async "

theorem renderPiece?_suspensionMark (h : b.get? "suspension" = some (.string style.name)) :
    renderPiece? b suspensionMark = some (asyncWord style) := by
  cases style <;>
    simp [suspensionMark, renderPiece?, renderPieces?, eval?, h, passes, sameText, asyncWord,
      Suspension.name]

/-- Steps are written one after the other, each awaited or not. -/
theorem renderPieces?_stepped (h : b.get? "suspension" = some (.string style.name)) :
    ∀ steps : List (TemplateExpr × List TemplatePiece),
      (∀ s ∈ steps, (eval? b s.1).isSome ∧ Supplied b s.2) →
        renderPieces? b (stepped steps) = some (String.join (steps.map fun s =>
          awaited (style == .async) (((eval? b s.1).map shown).getD "") ++
            (renderPieces? b s.2).getD ""))
  | [], _ => by simp [stepped, renderPieces?]
  | s :: steps, hsteps => by
      obtain ⟨⟨hvalue, hbehind⟩, hrest⟩ := List.forall_mem_cons.mp hsteps
      obtain ⟨v, hv⟩ := Option.isSome_iff_exists.mp hvalue
      obtain ⟨behind, hbehind⟩ := Option.isSome_iff_exists.mp (renderPieces?_isSome b s.2 hbehind)
      have hstepped : stepped (s :: steps) = [.put (.step s.1)] ++ (s.2 ++ stepped steps) := rfl
      have hput : renderPieces? b [.put (.step s.1)] =
          some (awaited (style == .async) (shown v)) := by
        simp [renderPieces?, renderPiece?, eval?, hv, shown, isAsync_of_get? h]
      rw [hstepped, renderPieces?_append, renderPieces?_append, hput, hbehind,
        renderPieces?_stepped h steps hrest]
      simp [hv, hbehind, String.append_assoc]

/-- **A template that writes a callback with steps** has the same text in either style, but for the
callback's mark and for what is around its steps. -/
theorem renderPieces?_suspended {head front : List TemplatePiece}
    {steps : List (TemplateExpr × List TemplatePiece)}
    (h : b.get? "suspension" = some (.string style.name)) (hhead : Supplied b head)
    (hfront : Supplied b front)
    (hsteps : ∀ s ∈ steps, (eval? b s.1).isSome ∧ Supplied b s.2) :
    renderPieces? b (suspended head front steps) =
      some ((Cut.of b head front steps).text style) := by
  obtain ⟨s, hs⟩ := Option.isSome_iff_exists.mp (renderPieces?_isSome b head hhead)
  obtain ⟨t, ht⟩ := Option.isSome_iff_exists.mp (renderPieces?_isSome b front hfront)
  have hmark := renderPiece?_suspensionMark h
  have hstepped := renderPieces?_stepped h steps hsteps
  unfold suspended
  rw [renderPieces?_append, renderPieces?, renderPieces?_append, hmark, hs, ht, hstepped]
  cases style <;>
    simp [Cut.text, Cut.of, hs, ht, awaited, asyncWord, Function.comp_def, String.append_assoc]

end Template

namespace Item

open Template

/-! ### The template of a test -/

/-- The template in front of the callback. -/
def testHead : List TemplatePiece :=
  testItem.take 5

/-- The template of the callback up to its first step. -/
def testFront : List TemplatePiece :=
  (testItem.drop 6).take 4

/-- The template of the callback's steps. -/
def testSteps : List (TemplateExpr × List TemplatePiece) := [
  (.concat (.concat (.text "storyHooks.preRender.call(this, ") (.var "hook_context")) (.text ")"),
    (testItem.drop 11).take 9),
  (.concat (.concat (.concat (.var "create_test") (.text "(")) (.var "context")) (.text ")"),
    (testItem.drop 21).take 2),
  (.text "test(browser)", (testItem.drop 24).take 16),
  (.text "component.test(browser, data)", (testItem.drop 41).take 10),
  (.concat (.concat (.text "storyHooks.postRender.call(this, ") (.var "hook_context")) (.text ")"),
    testItem.drop 52)]

theorem testItem_eq : testItem = suspended testHead testFront testSteps :=
  rfl

/-- Nothing beside the places for it asks for the style. -/
theorem not_mem_asks_test : "suspension" ∉ asks testHead ∧ "suspension" ∉ asks testFront ∧
    ∀ s ∈ testSteps, "suspension" ∉ exprAsks s.1 ∧ "suspension" ∉ asks s.2 := by
  decide

/-! ### The two styles -/

/-- The inputs of tests that a module's function makes. -/
def referring (inputs : ItemInputs) (module name : String) (style : Suspension) : ItemInputs :=
  { inputs with body := .reference module name style }

variable (inputs : ItemInputs) (entry : PlanEntry) (module name : String)

/-- The bindings of a test that a module's function makes. -/
def referringBindings (style : Suspension) : Bindings :=
  bindings (referring inputs module name style) entry (isAlone inputs entry)

/-- The text of the test, cut. -/
def cut : Cut :=
  .of (referringBindings inputs entry module name .sync) testHead testFront testSteps

/-- The bindings for the two styles differ in the style. -/
theorem referringBindings_agree (style style' : Suspension) {names : List String}
    (h : "suspension" ∉ names) :
    Agree (referringBindings inputs entry module name style)
      (referringBindings inputs entry module name style') names := by
  intro n hn
  have hne : "suspension" ≠ n := fun heq => h (heq ▸ hn)
  simp only [referringBindings, bindings, DataMap.get?_cons, if_neg hne]
  rfl

/-- The text of the test in either style. -/
theorem renderPieces?_referring (style : Suspension) :
    renderPieces? (referringBindings inputs entry module name style) testItem =
      some ((cut inputs entry module name).text style) := by
  obtain ⟨hhead, hfront, hsteps⟩ := not_mem_asks_test
  have hcut : Cut.of (referringBindings inputs entry module name style) testHead testFront
      testSteps = cut inputs entry module name :=
    Cut.of_congr (referringBindings_agree _ _ _ _ _ _ hhead)
      (referringBindings_agree _ _ _ _ _ _ hfront) fun s hs =>
        ⟨referringBindings_agree _ _ _ _ _ _ (hsteps s hs).1,
          referringBindings_agree _ _ _ _ _ _ (hsteps s hs).2⟩
  have hstyle : (referringBindings inputs entry module name style).get? "suspension" =
      some (.string style.name) := rfl
  rw [testItem_eq, ← hcut]
  refine renderPieces?_suspended hstyle ?_ ?_ ?_ <;>
    simp [testHead, testFront, testSteps, testItem, Supplied, SuppliedPiece, eval?,
      referringBindings, bindings, DataMap.get?]

/-- What is in front of the callback, and the callback up to its first step. -/
theorem cut_front : (cut inputs entry module name).head =
      "it" ++ (if isAlone inputs entry then ".only" else "") ++ "(" ++ Json.quote entry.title ++
        ", " ∧
    (cut inputs entry module name).front =
      "function (browser) \x7b\n  if (storyHooks.preRender) \x7b\n    try \x7b\n      " := by
  rw [← String.toList_inj]
  cases halone : isAlone inputs entry <;>
    simp [cut, Cut.of, testHead, testFront, testItem, renderPieces?, renderPiece?, eval?, passes,
      shown, referringBindings, bindings, DataMap.get?, halone]

/-- The steps of the callback. -/
theorem cut_steps : (cut inputs entry module name).steps.map Prod.fst = [
    "storyHooks.preRender.call(this, " ++ (hookData inputs entry).text ++ ")",
    "require(" ++ Json.quote module ++ ")[" ++ Json.quote name ++ "](" ++
      (contextData inputs entry).text ++ ")",
    "test(browser)",
    "component.test(browser, data)",
    "storyHooks.postRender.call(this, " ++ (hookData inputs entry).text ++ ")"] := by
  have hexpression : "require(" ++ Json.quote module ++ ")[" ++ Json.quote name ++ "](" =
      "require(" ++ Json.quote module ++ ")[" ++ Json.quote name ++ "]" ++ "(" := by
    rw [← String.toList_inj]
    simp
  rw [hexpression]
  rfl

/-- The template's own words do not begin the word `await`. -/
theorem unmixed_testItem : unmixed "await".toList true testItem = true := by
  decide +kernel

/-- **The two styles of a test.**  A test that a module's function makes is the same in both styles,
but for `async` in front of the callback and for its five steps, which are awaited in one of them;
and making it asks the same of the caller.  Where the text of the other speaks of awaiting, this is
in what was bound. -/
theorem synthesize_in_styles : ∃ (cut : Cut) (journal : Journal),
    (∀ style, (synthesize (referring inputs module name style) entry).start =
      (.ok (cut.text style), journal)) ∧
    cut.head =
      "it" ++ (if isAlone inputs entry then ".only" else "") ++ "(" ++ Json.quote entry.title ++
        ", " ∧
    cut.front =
      "function (browser) \x7b\n  if (storyHooks.preRender) \x7b\n    try \x7b\n      " ∧
    cut.steps.map Prod.fst = [
      "storyHooks.preRender.call(this, " ++ (hookData inputs entry).text ++ ")",
      "require(" ++ Json.quote module ++ ")[" ++ Json.quote name ++ "](" ++
        (contextData inputs entry).text ++ ")",
      "test(browser)",
      "component.test(browser, data)",
      "storyHooks.postRender.call(this, " ++ (hookData inputs entry).text ++ ")"] ∧
    ∃ spans, spans? (referringBindings inputs entry module name .sync) testItem = some spans ∧
      Span.characters spans = (cut.text .sync).toList ∧
      Span.OnlyInValues "await".toList spans := by
  obtain ⟨hhead, hfront⟩ := cut_front inputs entry module name
  refine ⟨cut inputs entry module name,
    { calls := Step.calls (activationSteps inputs entry)
      events := Step.reports (activationSteps inputs entry) },
    fun style => ?_, hhead, hfront, cut_steps inputs entry module name, ?_⟩
  · have htext : textOf (referring inputs module name style) entry =
        (cut inputs entry module name).text style :=
      congrArg (Option.getD · "") (renderPieces?_referring inputs entry module name style)
    -- what the predicate is asked about does not depend on the body
    have hsteps : activationSteps (referring inputs module name style) entry =
        activationSteps inputs entry := rfl
    rw [(synthesize_follows (referring inputs module name style) entry).start, htext, hsteps,
      Run.outcome_of_ok _ (activationSteps_ok inputs entry)]
  · exact onlyInValues_of_renderPieces? rfl (by decide) unmixed_testItem
      (renderPieces?_referring inputs entry module name .sync)

end Item

end StorySuite
