import StorySuite.Proofs.Synthesis.Order
import StorySuite.Proofs.Template.Independence
import StorySuite.Proofs.Template.Texts
import StorySuite.Text.Pieces

/-!
# Proofs — Suite — tests that run alone

A caller's predicate may choose tests to run alone.  It is asked once about each entry of the plan,
and a test that it chooses is marked at its very beginning.  The mark is all that it changes: what
is behind it asks neither for the predicate nor for its answer (`Item.behindMark`).

* **`Item.synthesize_alone`**: the tests of a plan with a predicate and without.
-/

namespace StorySuite

namespace Item

open Run (Follows)
open Template

/-! ### The mark -/

/-- The beginning of a test. -/
def mark (only : Bool) : String :=
  if only then "it.only(" else "it("

/-- A test without the mark that makes it run alone. -/
def withoutMark (test : String) : String :=
  match Text.dropStart? (mark true).toList test.toList with
  | some behind => mark false ++ String.ofList behind
  | none => test

theorem withoutMark_mark (only : Bool) (behind : String) :
    withoutMark (mark only ++ behind) = mark false ++ behind := by
  unfold withoutMark
  rw [String.toList_append]
  cases only with
  | false => rfl
  | true =>
      have hdrop : Text.dropStart? (mark true).toList ((mark true).toList ++ behind.toList) =
          some behind.toList := rfl
      rw [hdrop]
      exact congrArg (mark false ++ ·) String.ofList_toList

/-! ### What is behind the mark -/

/-- The template of a test behind its mark. -/
def testBehindMark : List TemplatePiece :=
  testItem.drop 3

theorem not_mem_asks_testBehindMark : "only" ∉ asks testBehindMark := by
  decide

variable (inputs : ItemInputs) (entry : PlanEntry)

/-- The text of a test behind its mark. -/
def behindMark : String :=
  (renderPieces? (bindings inputs entry false) testBehindMark).getD ""

/-- Tests that run alone and tests that do not differ in what is bound to the mark's name. -/
theorem bindings_agree (only only' : Bool) {names : List String} (h : "only" ∉ names) :
    Agree (bindings inputs entry only) (bindings inputs entry only') names := by
  intro n hn
  have hne : "only" ≠ n := fun heq => h (heq ▸ hn)
  simp only [bindings, DataMap.get?_cons, if_neg hne]

theorem renderPieces?_behindMark (only : Bool) :
    renderPieces? (bindings inputs entry only) testBehindMark = some (behindMark inputs entry) := by
  have hsupplied := supplied_testItem inputs entry false
  have hbehind : Supplied (bindings inputs entry false) testBehindMark := hsupplied.2.2.2
  obtain ⟨text, htext⟩ := Option.isSome_iff_exists.mp (renderPieces?_isSome _ _ hbehind)
  rw [renderPieces?_congr testBehindMark
    (bindings_agree inputs entry only false not_mem_asks_testBehindMark), behindMark, htext]
  rfl

/-- **The text of a test** is its mark and what is the same behind every mark. -/
theorem textOf_eq_mark :
    textOf inputs entry = mark (isAlone inputs entry) ++ behindMark inputs entry := by
  have hitem : testItem =
      [.text "it", .choice (.var "only") [.text ".only"] [], .text "("] ++ testBehindMark := rfl
  have hmark : renderPieces? (bindings inputs entry (isAlone inputs entry))
      [.text "it", .choice (.var "only") [.text ".only"] [], .text "("] =
        some (mark (isAlone inputs entry)) := by
    cases isAlone inputs entry <;> rfl
  unfold textOf
  rw [hitem, renderPieces?_append, hmark, renderPieces?_behindMark]
  rfl

/-! ### The tests of a plan -/

/-- The tests of a plan with their marks, after the predicate was asked about each entry. -/
theorem start_mapM_synthesize (plan : List PlanEntry) :
    (plan.mapM (synthesize inputs)).start =
      (.ok (plan.map fun entry => mark (isAlone inputs entry) ++ behindMark inputs entry),
        { calls := (plan.flatMap (activationSteps inputs)).filterMap Step.call }) := by
  have hfollows : Follows (plan.mapM (synthesize inputs)) (plan.flatMap (activationSteps inputs))
      (plan.map (textOf inputs)) :=
    .mapM fun entry _ => synthesize_follows inputs entry
  have hok : Step.error? (plan.flatMap (activationSteps inputs)) = none := by
    rw [Step.error?_flatMap, List.findSome?_eq_none_iff]
    exact fun entry _ => activationSteps_ok inputs entry
  have hquiet : (plan.flatMap (activationSteps inputs)).flatMap Step.events = [] := by
    rw [List.flatMap_eq_nil_iff, List.forall_mem_flatMap]
    exact fun entry _ => activationSteps_silent inputs entry
  have htexts : plan.map (textOf inputs) =
      plan.map fun entry => mark (isAlone inputs entry) ++ behindMark inputs entry :=
    List.map_congr_left fun entry _ => textOf_eq_mark inputs entry
  rw [hfollows.start, Run.outcome_of_ok _ hok, htexts]
  simp only [Step.calls, Step.reports, Step.made_of_ok hok, hquiet]

/-- **A predicate marks the tests that it chooses and changes nothing else.**  Without one nothing
is called.  With one it is asked once about each entry of the plan, in the plan's order; the tests
are those without one, but for the marks of the tests that it holds of. -/
theorem synthesize_alone (decides : ActivationContext → List String → Bool)
    (plan : List PlanEntry) :
    let told (entry : PlanEntry) : ActivationContext :=
      { title := entry.title, story := entry.story, modulePath := inputs.module.realPath
        publicUrl := inputs.module.publicUrl }
    ∃ bare marked : List String,
      (plan.mapM (synthesize { inputs with activation := none })).start = (.ok bare, {}) ∧
      (plan.mapM (synthesize { inputs with activation := some decides })).start =
        (.ok marked,
          { calls := plan.map fun entry => .activation (told entry) inputs.arguments }) ∧
      bare.length = plan.length ∧ marked.length = plan.length ∧
      (∀ i : Fin plan.length, ∃ behind,
        bare[i]? = some ("it(" ++ behind) ∧
        marked[i]? = some
          ((if decides (told plan[i]) inputs.arguments then "it.only(" else "it(") ++ behind)) ∧
      marked.map withoutMark = bare := by
  intro told
  refine ⟨plan.map fun entry => "it(" ++ behindMark inputs entry,
    plan.map fun entry => mark (decides (told entry) inputs.arguments) ++ behindMark inputs entry,
    ?_, ?_, List.length_map _, List.length_map _, fun i => ⟨behindMark inputs plan[i], ?_, ?_⟩, ?_⟩
  · refine (start_mapM_synthesize _ plan).trans ?_
    have hsilent : (plan.flatMap (activationSteps { inputs with activation := none })) = [] :=
      List.flatMap_eq_nil_iff.mpr fun _ _ => rfl
    rw [hsilent]
    rfl
  · refine (start_mapM_synthesize _ plan).trans ?_
    have hcalls :
        (plan.flatMap (activationSteps { inputs with activation := some decides })).filterMap
          Step.call = plan.map fun entry => .activation (told entry) inputs.arguments := by
      rw [List.map_eq_flatMap, List.filterMap_flatMap]
      rfl
    rw [hcalls]
    rfl
  · simp
  · simp [mark]
  · rw [List.map_map]
    exact List.map_congr_left fun entry _ => withoutMark_mark _ _

end Item

end StorySuite
