import StorySuite.Proofs.Suite.Assembly
import StorySuite.Proofs.Synthesis.Inspection
import StorySuite.Proofs.Synthesis.Planning

/-!
# Proofs — Synthesis — the text that a run ends with

A run that gets as far as normalizing has a plan, a compiled module, a test for each entry of the
plan, and a suite.  What it hands to be normalized is the compiled text and the suite, and what it
gives is what comes back, changed by the caller where the caller wants to.  Of the text that is
handed over nothing is written down by a run but its unit and its dialect; so what is handed over is
told by what all services do with it (`s.normalizing f` is the synthesizer `s` with another service
to normalize).

* `Synthesizer.exists_draft_of_makes`: how far a run is that normalizes.
* `Synthesizer.start_synthesizeModuleWith`: what a run gives that is so far.
* **`Synthesizer.synthesizeModuleWith_handsOver`**: the text that is handed over, for all renderers,
  and its tests, for the renderer of the library.
-/

namespace StorySuite

open Run (Follows OnlyAdds Makes)

namespace Call

/-- The call hands a text over to be normalized. -/
def isNormalize : Call → Bool
  | .normalize .. => true
  | _ => false

/-- The call is one of a function of the caller's. -/
def isCallback : Call → Bool
  | .filter .. | .moduleData | .exportData _ | .title _ | .activation .. | .transform => true
  | _ => false

end Call

/-! ### What is called before -/

/-- Nothing is normalized. -/
def Call.IsEarly (c : Call) : Prop :=
  ¬ c.isNormalize = true

theorem Call.IsEarly.of_isCallback {c : Call} (h : c.isCallback = true) : c.IsEarly := by
  unfold IsEarly
  cases c <;> simp_all [isCallback, isNormalize]

namespace Plan

/-- Making a plan calls functions of the caller's. -/
theorem isCallback_of_mem_steps (exports : List ExportName) (module : ModuleReference)
    (d : Descriptor) :
    ∀ step ∈ steps exports module d, ∀ c ∈ step.call, c.isCallback = true := by
  have hfilter : ∀ step ∈ filterSteps d exports module.realPath, ∀ c ∈ step.call,
      c.isCallback = true := by
    unfold filterSteps
    split <;> simp [Step.ask, Step.askFallible, Step.check, Call.isCallback]
  have hmodule : ∀ step ∈ moduleDataSteps d.data, ∀ c ∈ step.call, c.isCallback = true := by
    unfold moduleDataSteps
    split <;> simp [Step.askFallible, Call.isCallback]
  have hexport : ∀ story, ∀ step ∈ exportDataSteps d.data story, ∀ c ∈ step.call,
      c.isCallback = true := by
    intro story
    unfold exportDataSteps
    split <;> simp [Step.askFallible, Call.isCallback]
  have htitle : ∀ story, ∀ step ∈ titleSteps d.title story, ∀ c ∈ step.call,
      c.isCallback = true := by
    intro story
    unfold titleSteps
    split <;> simp [Step.ask, Call.isCallback]
  have hreport : ∀ event, ∀ c ∈ (Step.report event).call, c.isCallback = true :=
    fun _ c hc => absurd hc (Option.not_mem_none c)
  simp only [steps, List.forall_mem_append, List.forall_mem_cons, List.forall_mem_flatMap]
  exact ⟨hfilter, hreport _, hmodule, fun story _ => ⟨hexport story, htitle story⟩⟩

end Plan

theorem Item.synthesizeWith_isEarly (renderer : Renderer) (inputs : ItemInputs)
    (entry : PlanEntry) : OnlyAdds Call.IsEarly (synthesizeWith renderer inputs entry) := by
  have halone : OnlyAdds Call.IsEarly (runsAlone inputs entry) := by
    unfold runsAlone
    split
    · exact .pure false
    · exact (OnlyAdds.call (.of_isCallback rfl)).bind fun _ => .pure _
  exact halone.bind fun _ => .ofReport id _

theorem Suite.assembleWith_isEarly (renderer : Renderer) (module : ModuleReference)
    (stories : List ExportName) (items : List String) (shape : Option DefaultShape)
    (options : SuiteOptions) :
    OnlyAdds Call.IsEarly (assembleWith renderer module stories items shape options) :=
  (OnlyAdds.ofExcept id _).bind fun _ => .ofReport id _

namespace Synthesizer

variable (s : Synthesizer) (renderer : Renderer) (module : ModuleReference) (d : Descriptor)
  (exec : ExecContext) (body : TestBody)

/-- The steps of a run up to the look at the default export. -/
def groundworkSteps : List Step :=
  [.service (.analyze module.realPath) (s.build.analyzeExports module.realPath)] ++
    ([.report (.catalogResolved module.realPath (s.exportsOf module).length)] ++
      (Plan.steps (s.exportsOf module) module d ++
        [.service (.compile module.realPath module.dialect)
          (s.build.compileModule module.realPath module.dialect)]))

theorem groundwork_follows :
    Follows (s.groundwork d module) (s.groundworkSteps module d)
      (s.entriesOf module d, s.compiledOf module) := by
  unfold groundwork groundworkSteps
  rw [← bind_assoc]
  refine (Follows.service _ _ []).bind fun _ => ?_
  refine (Follows.event _).bind fun _ => ?_
  refine (Plan.resolve_follows (s.exportsOf module) module d).bind fun _ => ?_
  have hcompile := Follows.service (.compile module.realPath module.dialect)
    (s.build.compileModule module.realPath module.dialect) { text := "", exports := [] }
  have h := hcompile.bind_pure fun compiled => (s.entriesOf module d, compiled)
  rwa [bind_assoc] at h

theorem groundwork_isEarly : OnlyAdds Call.IsEarly (s.groundwork d module) := by
  refine (s.groundwork_follows module d).onlyAdds ?_
  simp only [groundworkSteps, List.forall_mem_append, List.forall_mem_singleton]
  refine ⟨?_, nofun, fun step hstep c hc => .of_isCallback ?_, ?_⟩
  · rintro _ ⟨⟩
    nofun
  · exact Plan.isCallback_of_mem_steps _ module d step hstep c hc
  · rintro _ ⟨⟩
    nofun

theorem inspect_isEarly : OnlyAdds Call.IsEarly (s.inspect module) :=
  .of_runFrom_eq (s.inspect_runFrom module) (List.forall_mem_singleton.mpr nofun)

theorem testedWith_isEarly (known : List PlanEntry × CompiledModule)
    (shape : Option DefaultShape) :
    OnlyAdds Call.IsEarly (testedWith renderer d exec module body known shape) :=
  (OnlyAdds.mapM (Item.synthesizeWith_isEarly renderer _) known.1).bind fun _ => .pure _

theorem moduleDraftWith_isEarly :
    OnlyAdds Call.IsEarly (s.moduleDraftWith renderer d exec module body) :=
  (s.groundwork_isEarly module d).bind fun known =>
    (s.inspect_isEarly module).bind fun shape =>
      testedWith_isEarly renderer module d exec body known shape

/-! ### Drafts -/

/-- What is known of a draft: a plan, a compiled module, and a test for each entry. -/
structure Drafts (draft : Draft) : Prop where
  ofModule : draft.module = module
  ofBody : draft.body = body
  planned : ∃ exports, (s.build.analyzeExports module.realPath).result = .ok exports ∧
    (Plan.resolve exports module d).start.1 = .ok draft.plan
  compiled : (s.build.compileModule module.realPath module.dialect).result = .ok draft.compiled
  shape : draft.shape = s.shapeOf module
  tests : List.Forall₂ (fun entry test =>
    (Item.synthesizeWith renderer (inputsOf module d body exec) entry).start.1 = .ok test)
    draft.plan draft.tests

/-- What the run up to the look at the default export gives. -/
theorem groundwork_eq_ok {known : List PlanEntry × CompiledModule}
    (h : (s.groundwork d module).start.1 = .ok known) :
    (∃ exports, (s.build.analyzeExports module.realPath).result = .ok exports ∧
      (Plan.resolve exports module d).start.1 = .ok known.1) ∧
    (s.build.compileModule module.realPath module.dialect).result = .ok known.2 := by
  rw [(s.groundwork_follows module d).start] at h
  obtain ⟨hsteps, rfl⟩ := Run.outcome_eq_ok_iff.mp h
  simp only [groundworkSteps, Step.error?_append, Option.or_eq_none_iff] at hsteps
  obtain ⟨hanalyze, -, hplan, hcompile⟩ := hsteps
  refine ⟨⟨s.exportsOf module, Step.eq_ok_of_error?_service hanalyze [], ?_⟩,
    Step.eq_ok_of_error?_service hcompile _⟩
  rw [(Plan.resolve_follows (s.exportsOf module) module d).start]
  exact Run.outcome_of_ok _ hplan

/-- **A draft** has a plan, a compiled module, and the tests of the plan. -/
theorem drafts_of_eq_ok {draft : Draft}
    (h : (s.moduleDraftWith renderer d exec module body).start.1 = .ok draft) :
    s.Drafts renderer module d exec body draft := by
  have htested := fun known shape => testedWith_isEarly renderer module d exec body known shape
  obtain ⟨known, hknown, h⟩ := (Run.start_bind_eq_ok_iff fun known =>
    (s.inspect_isEarly module).bind (htested known)).mp h
  obtain ⟨shape, hshape, h⟩ := (Run.start_bind_eq_ok_iff (htested known)).mp h
  obtain ⟨tests, htests, h⟩ := (Run.start_bind_eq_ok_iff (p := Call.IsEarly)
    fun tests => OnlyAdds.pure _).mp h
  obtain ⟨hplan, hcompiled⟩ := s.groundwork_eq_ok module d hknown
  rw [s.inspect_start] at hshape
  cases h
  exact ⟨rfl, rfl, hplan, hcompiled, (Except.ok.inj hshape).symm,
    (Run.mapM_eq_ok_iff (Item.synthesizeWith_isEarly renderer _)).mp htests⟩

/-! ### What is handed over -/

/-- What a run gives for an answer of the service that normalizes. -/
def delivered (transform : Option (String → String)) (answer : Except BuildError String) :
    Except SynthesisError String :=
  (answer.mapError .build).map (transform.getD id)

/-- What is done with a suite: the text is handed over, and what comes back is changed and
reported. -/
def handOver (draft : Draft) (suite : String) : Run SynthesisError String := do
  let code ← Synthesis.recombine s.build draft.module draft.compiled.text suite d.transform
  Run.event (.suiteSynthesized draft.module.realPath draft.tests.length draft.body.style)
  pure code

theorem handOver_follows (draft : Draft) (suite : String) :
    let answer := s.build.normalize (Synthesis.joinTexts draft.compiled.text suite)
      draft.module.virtualPath draft.module.dialect
    Follows (s.handOver d draft suite)
      (.service (.normalize draft.module.virtualPath draft.module.dialect) answer ::
        transformSteps d.transform ++
          [.report (.suiteSynthesized draft.module.realPath draft.tests.length draft.body.style)])
      (d.transform.getD id (Step.valueOf "" answer.result)) := by
  intro answer
  refine (s.recombine_follows draft.module d draft.compiled.text suite).bind fun _ => ?_
  exact (Follows.event _).bind_pure fun _ => d.transform.getD id (Step.valueOf "" answer.result)

theorem handOver_onlyAdds (draft : Draft) (suite : String) :
    OnlyAdds (fun _ => True) (s.handOver d draft suite) :=
  (s.handOver_follows d draft suite).onlyAdds fun _ _ _ _ => trivial

/-- What comes back is changed by the caller, if the caller wants to, and is the result. -/
theorem handOver_result (draft : Draft) (suite : String) :
    (s.handOver d draft suite).start.1 =
      delivered d.transform (s.build.normalize (draft.compiled.text ++ "\n" ++ suite ++ "\n")
        draft.module.virtualPath draft.module.dialect).result := by
  have hstart := congrArg Prod.fst (s.handOver_follows d draft suite).start
  rw [hstart]
  unfold Run.outcome delivered Synthesis.joinTexts Step.error? Step.service transformSteps
  cases (s.build.normalize (draft.compiled.text ++ "\n" ++ suite ++ "\n")
    draft.module.virtualPath draft.module.dialect).result with
  | error e => rfl
  | ok code => cases d.transform <;> rfl

/-- One text is handed over, under the name of the unit. -/
theorem handOver_calls (draft : Draft) (suite : String) :
    (s.handOver d draft suite).start.2.calls.filter Call.isNormalize =
      [.normalize draft.module.virtualPath draft.module.dialect] := by
  have hstart := congrArg Prod.snd (s.handOver_follows d draft suite).start
  rw [hstart]
  unfold Step.calls Step.service transformSteps
  cases (s.build.normalize (Synthesis.joinTexts draft.compiled.text suite)
    draft.module.virtualPath draft.module.dialect).result with
  | error e => rfl
  | ok code => cases d.transform <;> rfl

/-- **A run for a module** is a draft, a suite, and what is done with the suite. -/
theorem synthesizeModuleWith_eq (hbody : d.body = some body) :
    s.synthesizeModuleWith renderer module d exec =
      s.moduleDraftWith renderer d exec module body >>= fun draft =>
        Suite.assembleWith renderer draft.module (draft.plan.map (·.story)) draft.tests draft.shape
          (s.suiteOptions exec) >>= s.handOver d draft := by
  simp only [synthesizeModuleWith, moduleDraftWith, groundwork, testedWith, hbody, bind_assoc]
  rfl

theorem assembled_onlyAdds (draft : Draft) :
    OnlyAdds (fun _ => True)
      (Suite.assembleWith renderer draft.module (draft.plan.map (·.story)) draft.tests draft.shape
        (s.suiteOptions exec) >>= s.handOver d draft) :=
  ((Suite.assembleWith_isEarly renderer _ _ _ _ _).mono fun _ _ => trivial).bind
    (s.handOver_onlyAdds d draft)

/-- **A run that normalizes** has a draft and a suite. -/
theorem exists_draft_of_makes
    (h : (s.synthesizeModuleWith renderer module d exec).Makes (·.isNormalize = true)) :
    ∃ body draft suite, d.body = some body ∧
      (s.moduleDraftWith renderer d exec module body).start.1 = .ok draft ∧
      (Suite.assembleWith renderer draft.module (draft.plan.map (·.story)) draft.tests draft.shape
        (s.suiteOptions exec)).start.1 = .ok suite := by
  cases hbody : d.body with
  | none =>
      obtain ⟨c, hc, -⟩ := h
      simp only [synthesizeModuleWith, hbody] at hc
      exact absurd hc List.not_mem_nil
  | some body =>
      rw [s.synthesizeModuleWith_eq renderer module d exec body hbody] at h
      obtain ⟨draft, hdraft, h⟩ := Run.exists_of_makes_bind
        (s.moduleDraftWith_isEarly renderer module d exec body)
        (s.assembled_onlyAdds renderer d exec) h
      obtain ⟨suite, hsuite, -⟩ := Run.exists_of_makes_bind
        (Suite.assembleWith_isEarly renderer _ _ _ _ _) (s.handOver_onlyAdds d draft) h
      exact ⟨body, draft, suite, rfl, hdraft, hsuite⟩

/-- What a run leaves behind that has a draft and a suite. -/
theorem start_synthesizeModuleWith {body : TestBody} {draft : Draft} {suite : String}
    (hbody : d.body = some body)
    (hdraft : (s.moduleDraftWith renderer d exec module body).start.1 = .ok draft)
    (hsuite : (Suite.assembleWith renderer draft.module (draft.plan.map (·.story)) draft.tests
      draft.shape (s.suiteOptions exec)).start.1 = .ok suite) :
    (s.synthesizeModuleWith renderer module d exec).start.1 = (s.handOver d draft suite).start.1 ∧
      (s.synthesizeModuleWith renderer module d exec).start.2.calls.filter Call.isNormalize =
        (s.handOver d draft suite).start.2.calls.filter Call.isNormalize := by
  have hearly : ∀ {α : Type} {r : Run SynthesisError α}, OnlyAdds Call.IsEarly r →
      r.start.2.calls.filter Call.isNormalize = [] :=
    fun h => List.filter_eq_nil_iff.mpr h.calls
  rw [s.synthesizeModuleWith_eq renderer module d exec body hbody,
    Run.start_bind_of_ok (s.assembled_onlyAdds renderer d exec) hdraft,
    Run.start_bind_of_ok (s.handOver_onlyAdds d draft) hsuite]
  simp only [Journal.calls_append, List.filter_append,
    hearly (s.moduleDraftWith_isEarly renderer module d exec body),
    hearly (Suite.assembleWith_isEarly renderer _ _ _ _ _), List.nil_append, true_and]

/-- The synthesizer with another service to normalize. -/
def normalizing (f : String → Path → Dialect → Report BuildError String) : Synthesizer :=
  { s with build := { s.build with normalize := f } }

/-- What a run hands to be normalized, and what it makes of it: of a plan, a compiled module, the
tests and their suite. -/
structure HandsOver (plan : List PlanEntry) (compiled : CompiledModule) (tests : List String)
    (suite : String) : Prop where
  requested : d.body = some body
  /-- The plan is the request's, for the module's exports. -/
  planned : ∃ exports, (s.build.analyzeExports module.realPath).result = .ok exports ∧
    (Plan.resolve exports module d).start.1 = .ok plan
  compiles : (s.build.compileModule module.realPath module.dialect).result = .ok compiled
  /-- Each entry of the plan has its test, in the plan's order. -/
  tested : List.Forall₂ (fun entry test =>
    (Item.synthesizeWith renderer (inputsOf module d body exec) entry).start.1 = .ok test)
    plan tests
  /-- The suite is the tests'. -/
  assembled : (Suite.assembleWith renderer module (plan.map (·.story)) tests (s.shapeOf module)
    (s.suiteOptions exec)).start.1 = .ok suite
  /-- One text is handed over, under the name of the unit. -/
  once : (s.synthesizeModuleWith renderer module d exec).start.2.calls.filter Call.isNormalize =
    [.normalize module.virtualPath module.dialect]
  /-- It is the compiled text and the suite; for whatever a service makes of it, the result is that,
  changed by the caller if the caller wants to. -/
  result : ∀ f, ((s.normalizing f).synthesizeModuleWith renderer module d exec).start.1 =
    delivered d.transform
      (f (compiled.text ++ "\n" ++ suite ++ "\n") module.virtualPath module.dialect).result

/-- **The text that a run hands over.**  A run that normalizes hands over the compiled module and
the suite of the tests of its plan, once.  With the renderer of the library, the suite is the tests
in the order of the plan, each as it is and on lines of its own, in a frame that would be the same
for any other tests. -/
theorem synthesizeModuleWith_handsOver
    (h : (s.synthesizeModuleWith renderer module d exec).Makes (·.isNormalize = true)) :
    ∃ body plan compiled tests suite,
      s.HandsOver renderer module d exec body plan compiled tests suite ∧
      (renderer = .templates → ∃ front, suite = Suite.around front tests ∧
        ∀ others : List String,
          (Suite.assemble module (plan.map (·.story)) others (s.shapeOf module)
            (s.suiteOptions exec)).start.1 = .ok (Suite.around front others)) := by
  obtain ⟨body, draft, suite, hbody, hdraft, hsuite⟩ :=
    s.exists_draft_of_makes renderer module d exec h
  have hdrafts := s.drafts_of_eq_ok renderer module d exec body hdraft
  obtain ⟨-, hcalls⟩ := s.start_synthesizeModuleWith renderer module d exec hbody hdraft hsuite
  have hassembled := hsuite
  rw [hdrafts.ofModule, hdrafts.shape] at hassembled
  refine ⟨body, draft.plan, draft.compiled, draft.tests, suite,
    ⟨hbody, hdrafts.planned, hdrafts.compiled, hdrafts.tests, hassembled, ?_, fun f => ?_⟩, ?_⟩
  · rw [hcalls, handOver_calls, hdrafts.ofModule]
  · -- up to the suite, a run does not ask who normalizes
    have hdraft' : ((s.normalizing f).moduleDraftWith renderer d exec module body).start.1 =
        .ok draft := hdraft
    have hstart :=
      (s.normalizing f).start_synthesizeModuleWith renderer module d exec hbody hdraft' hsuite
    rw [hstart.1, handOver_result, hdrafts.ofModule]
    rfl
  · rintro rfl
    obtain ⟨hsettings, hsuite⟩ := Suite.assemble_eq_ok_iff.mp hassembled
    exact ⟨_, hsuite, fun others => Suite.assemble_eq_ok_iff.mpr ⟨hsettings, rfl⟩⟩

/-- A module with two exports, and services of which the last gives back what it is handed. -/
def echoing : Synthesizer where
  build :=
    { analyzeExports := fun _ => { result := .ok [⟨"Small"⟩, ⟨"Primary"⟩] }
      compileModule := fun _ _ => { result := .ok { text := "var Small, Primary;", exports := [] } }
      normalize := fun text _ _ => { result := .ok text }
      inspectDefault := fun _ _ => { result := .ok .absent } }
  options := { cwd := ⟨"/p"⟩, hookNamespaces := [], titleFromDefault := false }

/-- A request that names what a template asks for, and ends what a suite opens, in its title, in its
data and in its function. -/
def quotingRequest : Descriptor :=
  { title := .literal "\x7b\x7b items \x7d\x7d\n\x7d);"
    data := .fixed [("label", .string "\x7b% raw %\x7d\"")]
    body := some (.inline ⟨"() => () => \"\x7b\x7b title \x7d\x7d\"", .sync⟩)
    transform := some (· ++ "// end\n") }

/-- The run of that request hands over one text, with a test for each export, and gives it back with
the caller's line behind it. -/
theorem echoing_handsOver :
    (echoing.synthesizeModuleWith .templates Plan.sampledModule quotingRequest {}).Makes
      (·.isNormalize = true) ∧
    ∃ body plan compiled tests suite front,
      echoing.HandsOver .templates Plan.sampledModule quotingRequest {} body plan compiled tests
        suite ∧
      suite = Suite.around front tests ∧ plan.map (·.story) = [⟨"Small"⟩, ⟨"Primary"⟩] ∧
      (echoing.synthesizeModuleWith .templates Plan.sampledModule quotingRequest {}).start.1 =
        .ok ("var Small, Primary;" ++ "\n" ++ suite ++ "\n" ++ "// end\n") := by
  have hfollows := echoing.synthesizeModule_follows Plan.sampledModule quotingRequest _ {} rfl
  have hcalls : (echoing.synthesizeModuleWith .templates Plan.sampledModule quotingRequest
      {}).start.2.calls = [.analyze ⟨"/p/Button.js"⟩, .compile ⟨"/p/Button.js"⟩ .js,
        .inspect ⟨"/p/Button.js"⟩ [], .normalize ⟨"/p/Button.storytest.js"⟩ .js, .transform] := by
    have hstart : (echoing.synthesizeModuleWith .templates Plan.sampledModule quotingRequest
      {}).start = _ := hfollows.start
    rw [hstart]
    rfl
  have hmakes : (echoing.synthesizeModuleWith .templates Plan.sampledModule quotingRequest {}).Makes
      (·.isNormalize = true) := by
    refine ⟨.normalize ⟨"/p/Button.storytest.js"⟩ .js, ?_, rfl⟩
    rw [hcalls]
    simp
  -- the run hands its text over, so the parts of the text are what the services answered
  obtain ⟨body, plan, compiled, tests, suite, hands, hsuite⟩ :=
    echoing.synthesizeModuleWith_handsOver .templates Plan.sampledModule quotingRequest {} hmakes
  obtain ⟨front, hfront, -⟩ := hsuite rfl
  refine ⟨hmakes, body, plan, compiled, tests, suite, front, hands, hfront, ?_, ?_⟩
  · obtain ⟨exports, hexports, hplan⟩ := hands.planned
    cases hexports
    obtain ⟨selected, hselected, -, -, rfl⟩ := Plan.resolve_eq_ok_iff.mp hplan
    cases hselected
    rfl
  · have hcompiled := hands.compiles
    cases hcompiled
    exact hands.result fun text _ _ => { result := .ok text }

end Synthesizer

end StorySuite
