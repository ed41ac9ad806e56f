import StorySuite.Proofs.Synthesis.Order

/-!
# Proofs — Synthesis — what the look at the default export decides

A run of synthesis looks at the default export once, and what it sees goes into the suite only, as
the list of the hook slots that are wired.  So a run falls into two parts: a draft
(`Synthesizer.draftWith`), in which the plan and the tests are made, and the rest
(`Synthesizer.finishWith`), in which the suite is put around the tests.

`s.inspecting look` is the synthesizer `s` with another look at default exports, and `s.orAbsent` is
`s` with every failing look answered by "there is no default export".

* `Synthesizer.synthesizeWith_eq`: a run is a draft and the rest.
* `Synthesizer.start_bind_inspect`: what a run leaves behind that looks at the default export, by
  what is done before the look, the look, and what is done behind it.
* `Synthesizer.tests_inspecting`: no look has a say in the tests.
* **`Synthesizer.inspection_degrades`**: the runs of `s` and of `s.orAbsent` are the same but for one
  warning.
-/

namespace StorySuite

open Run (Follows OnlyAdds)

/-- The calls of synthesis other than the look at the default export. -/
def Call.IsRoutine (c : Call) : Prop :=
  c.isInspect = false ∧ c.isRun = false

/-! ### What the parts of a run call -/

namespace Plan

/-- What a step of making a plan can be: a call of a function of the caller's, a look at the choice,
or the report of the plan. -/
inductive IsPlanning (exports : List ExportName) (path : Path) : Step → Prop where
  | ask {c : Call} (h : c.IsRoutine) : IsPlanning exports path (.ask c)
  | askFallible {α : Type} {c : Call} {callback : Callback} {answer : Except String α}
      (h : c.IsRoutine) : IsPlanning exports path (.askFallible c callback answer)
  | check (selected : List ExportName) :
      IsPlanning exports path (.check (unknown? exports selected path))
  | report (selected : Nat) : IsPlanning exports path (.report (.exportsSelected path selected))

theorem isPlanning_of_mem_steps (exports : List ExportName) (module : ModuleReference)
    (d : Descriptor) : ∀ step ∈ steps exports module d, IsPlanning exports module.realPath step := by
  -- the filter, the data, and the titles
  have hfilter : ∀ step ∈ filterSteps d exports module.realPath,
      IsPlanning exports module.realPath step := by
    unfold filterSteps
    split
    · exact List.forall_mem_nil _
    · exact List.forall_mem_cons.mpr ⟨.ask ⟨rfl, rfl⟩, List.forall_mem_singleton.mpr (.check _)⟩
    · exact List.forall_mem_cons.mpr
        ⟨.askFallible ⟨rfl, rfl⟩, List.forall_mem_singleton.mpr (.check _)⟩
  have hmodule : ∀ step ∈ moduleDataSteps d.data, IsPlanning exports module.realPath step := by
    unfold moduleDataSteps
    split
    · exact List.forall_mem_singleton.mpr (.askFallible ⟨rfl, rfl⟩)
    · exact List.forall_mem_nil _
  have hexport : ∀ story, ∀ step ∈ exportDataSteps d.data story,
      IsPlanning exports module.realPath step := by
    intro story
    unfold exportDataSteps
    split
    · exact List.forall_mem_singleton.mpr (.askFallible ⟨rfl, rfl⟩)
    · exact List.forall_mem_nil _
  have htitle : ∀ story, ∀ step ∈ titleSteps d.title story,
      IsPlanning exports module.realPath step := by
    intro story
    unfold titleSteps
    split
    · exact List.forall_mem_singleton.mpr (.ask ⟨rfl, rfl⟩)
    · exact List.forall_mem_nil _
  simp only [steps, List.forall_mem_append, List.forall_mem_cons, List.forall_mem_flatMap]
  exact ⟨hfilter, .report _, hmodule, fun story _ => ⟨hexport story, htitle story⟩⟩

/-- Making a plan calls functions of the caller's and nothing else. -/
theorem resolve_onlyAdds (exports : List ExportName) (module : ModuleReference) (d : Descriptor) :
    OnlyAdds Call.IsRoutine (resolve exports module d) := by
  refine (resolve_follows exports module d).onlyAdds fun step hstep c hc => ?_
  cases isPlanning_of_mem_steps exports module d step hstep with
  | ask h => exact Option.some.inj hc ▸ h
  | askFallible h => exact Option.some.inj hc ▸ h
  | check selected => cases hc
  | report selected => cases hc

end Plan

namespace Item

theorem synthesizeWith_onlyAdds (renderer : Renderer) (inputs : ItemInputs) (entry : PlanEntry) :
    OnlyAdds Call.IsRoutine (synthesizeWith renderer inputs entry) := by
  have halone : OnlyAdds Call.IsRoutine (runsAlone inputs entry) := by
    unfold runsAlone
    split
    · exact .pure false
    · exact (OnlyAdds.call ⟨rfl, rfl⟩).bind fun _ => .pure _
  exact halone.bind fun _ => .ofReport id _

end Item

namespace Suite

theorem assembleWith_onlyAdds (renderer : Renderer) (module : ModuleReference)
    (stories : List ExportName) (items : List String) (shape : Option DefaultShape)
    (options : SuiteOptions) :
    OnlyAdds Call.IsRoutine (assembleWith renderer module stories items shape options) :=
  (OnlyAdds.ofExcept id _).bind fun _ => .ofReport id _

/-- Of what is known of the default export a suite takes the wired slots. -/
theorem assembleWith_congr (renderer : Renderer) (module : ModuleReference)
    (stories : List ExportName) (items : List String) {shape shape' : Option DefaultShape}
    (options : SuiteOptions) (h : HookSlot.wired shape = HookSlot.wired shape') :
    assembleWith renderer module stories items shape options =
      assembleWith renderer module stories items shape' options := by
  simp only [assembleWith, bindings, h]

end Suite

namespace Synthesis

theorem recombine_onlyAdds (build : BuildService) (module : ModuleReference)
    (compiled suite : String) (transform : Option (String → String)) :
    OnlyAdds Call.IsRoutine (recombine build module compiled suite transform) := by
  have htransform : ∀ code, OnlyAdds Call.IsRoutine (applyTransform transform code) := by
    intro code
    cases transform with
    | none => exact .pure code
    | some f => exact (OnlyAdds.call ⟨rfl, rfl⟩).bind fun _ => .pure (f code)
  exact (OnlyAdds.call ⟨rfl, rfl⟩).bind fun _ => (OnlyAdds.ofReport .build _).bind htransform

end Synthesis

/-! ### The parts of a run -/

/-- What a run has at hand when it puts the suite together. -/
structure Draft where
  module : ModuleReference
  body : TestBody
  plan : List PlanEntry
  compiled : CompiledModule
  /-- What is known of the default export. -/
  shape : Option DefaultShape
  /-- The texts of the tests, in the order of the plan. -/
  tests : List String

namespace Synthesizer

variable (s : Synthesizer) (renderer : Renderer) (path : Path) (d : Descriptor)
  (exec : ExecContext) (module : ModuleReference) (body : TestBody)

/-- The module and the function that makes tests, as a request names them. -/
def request : Except SynthesisError (ModuleReference × TestBody) :=
  match d.body with
  | none => .error .missingTestBody
  | some body => (s.moduleReference path).map (·, body)

/-- A run up to the look at the default export: the plan, and the compiled module. -/
def groundwork : Run SynthesisError (List PlanEntry × CompiledModule) := do
  Run.call (.analyze module.realPath)
  let exports ← Run.ofReport .build (s.build.analyzeExports module.realPath)
  Run.event (.catalogResolved module.realPath exports.length)
  let plan ← Plan.resolve exports module d
  Run.call (.compile module.realPath module.dialect)
  let compiled ← Run.ofReport .build (s.build.compileModule module.realPath module.dialect)
  pure (plan, compiled)

/-- The tests of a plan, put together with what is known. -/
def testedWith (known : List PlanEntry × CompiledModule) (shape : Option DefaultShape) :
    Run SynthesisError Draft := do
  let tests ← known.1.mapM (Item.synthesizeWith renderer (inputsOf module d body exec))
  pure { module, body, plan := known.1, compiled := known.2, shape, tests }

/-- A run up to the suite, for a module that is already named. -/
def moduleDraftWith : Run SynthesisError Draft := do
  let known ← s.groundwork d module
  let shape ← s.inspect module
  testedWith renderer d exec module body known shape

/-- A run up to the suite. -/
def draftWith : Run SynthesisError Draft := do
  let (module, body) ← Run.ofExcept id (s.request path d)
  s.moduleDraftWith renderer d exec module body

/-- What is done with a draft. -/
def finishWith (draft : Draft) : Run SynthesisError String := do
  let suite ← Suite.assembleWith renderer draft.module (draft.plan.map (·.story)) draft.tests
    draft.shape (s.suiteOptions exec)
  let code ← Synthesis.recombine s.build draft.module draft.compiled.text suite d.transform
  Run.event (.suiteSynthesized draft.module.realPath draft.tests.length draft.body.style)
  pure code

/-- **A run is a draft and the rest.** -/
theorem synthesizeWith_eq :
    s.synthesizeWith renderer path d exec =
      s.draftWith renderer path d exec >>= s.finishWith renderer d exec := by
  cases hbody : d.body with
  | none =>
      simp only [synthesizeWith, draftWith, request, hbody]
      rfl
  | some body =>
      cases hmodule : s.moduleReference path with
      | error e =>
          simp only [synthesizeWith, draftWith, request, hbody, hmodule]
          rfl
      | ok module =>
          simp only [synthesizeWith, synthesizeModuleWith, draftWith, moduleDraftWith, groundwork,
            testedWith, request, hbody, hmodule, bind_assoc]
          rfl

theorem groundwork_onlyAdds : OnlyAdds Call.IsRoutine (s.groundwork d module) := by
  refine (OnlyAdds.call ⟨rfl, rfl⟩).bind fun _ => ?_
  refine (OnlyAdds.ofReport SynthesisError.build _).bind fun exports => ?_
  refine (OnlyAdds.event _).bind fun _ => ?_
  refine (Plan.resolve_onlyAdds exports module d).bind fun plan => ?_
  refine (OnlyAdds.call ⟨rfl, rfl⟩).bind fun _ => ?_
  exact (OnlyAdds.ofReport SynthesisError.build _).bind fun compiled => .pure (plan, compiled)

/-- The look is not made before there is a plan. -/
theorem any_isInspect_groundwork :
    (s.groundwork d module).start.2.calls.any Call.isInspect = false := by
  rw [List.any_eq_false]
  intro c hc
  rw [((s.groundwork_onlyAdds d module).calls c hc).1]
  exact Bool.false_ne_true

theorem testedWith_onlyAdds (known : List PlanEntry × CompiledModule)
    (shape : Option DefaultShape) :
    OnlyAdds Call.IsRoutine (testedWith renderer d exec module body known shape) :=
  (OnlyAdds.mapM (Item.synthesizeWith_onlyAdds renderer _) known.1).bind fun _ => .pure _

theorem finishWith_onlyAdds (draft : Draft) :
    OnlyAdds Call.IsRoutine (s.finishWith renderer d exec draft) := by
  refine (Suite.assembleWith_onlyAdds renderer _ _ _ _ _).bind fun suite => ?_
  refine (Synthesis.recombine_onlyAdds s.build _ _ suite d.transform).bind fun code => ?_
  exact (OnlyAdds.event _).bind fun _ => .pure code

/-! ### The look -/

/-- What the look at the default export leaves behind. -/
def inspectJournal : Journal :=
  { calls := [.inspect module.realPath s.options.hookNamespaces]
    events := (s.inspectStep module).events }

/-- The look never fails. -/
theorem inspect_runFrom (j : Journal) :
    (s.inspect module).runFrom j = (.ok (s.shapeOf module), j ++ s.inspectJournal module) := by
  rw [s.inspect_follows module j]
  simp [Run.outcome, Step.error?, inspectStep, inspectJournal, Journal.after, Step.calls,
    Step.reports, Step.made]
  rfl

theorem inspect_start :
    (s.inspect module).start = (.ok (s.shapeOf module), s.inspectJournal module) :=
  s.inspect_runFrom module {}

theorem inspect_onlyAdds : OnlyAdds (fun c => c.isRun = false) (s.inspect module) :=
  .of_runFrom_eq (s.inspect_runFrom module) (List.forall_mem_singleton.mpr rfl)

/-- A run with a look at the default export in it: what is done before, the look, and what is done
behind it with what was seen. -/
theorem start_bind_inspect {α : Type}
    {rest : List PlanEntry × CompiledModule → Option DefaultShape → Run SynthesisError α}
    (hrest : ∀ known shape, OnlyAdds Call.IsRoutine (rest known shape)) :
    (s.groundwork d module >>= fun known => s.inspect module >>= rest known).start =
      match (s.groundwork d module).start with
      | (.error e, j) => (.error e, j)
      | (.ok known, j) =>
        let run := (rest known (s.shapeOf module)).start
        (run.1, j ++ (s.inspectJournal module ++ run.2)) := by
  have hbehind : ∀ known, OnlyAdds (fun c => c.isRun = false)
      (s.inspect module >>= rest known) := fun known =>
    (s.inspect_onlyAdds module).bind fun shape => (hrest known shape).mono fun _ h => h.2
  rw [Run.start_bind _ hbehind]
  rcases (s.groundwork d module).start with ⟨e | known, j⟩
  · rfl
  · simp only [Run.start_bind _ (hrest known), s.inspect_start]

/-! ### Other looks -/

/-- The synthesizer with another look at default exports. -/
def inspecting (look : Path → List String → Report BuildError DefaultShape) : Synthesizer :=
  { s with build := { s.build with inspectDefault := look } }

/-- The synthesizer that takes a default export for absent where it cannot be looked at. -/
def orAbsent : Synthesizer :=
  s.inspecting fun path namespaces =>
    let answer := s.build.inspectDefault path namespaces
    { answer with result := .ok (Step.valueOf .absent answer.result) }

/-- The warning that the default export of the module at `path` cannot be looked at, if that is
so. -/
def warning? : Option Event :=
  match s.moduleReference path with
  | .error _ => none
  | .ok module =>
    (Step.errorOf
      (s.build.inspectDefault module.realPath s.options.hookNamespaces).result).map
        (.inspectionFailed module.realPath)

/-- What is known of the default export goes into a draft as it is, and into no test. -/
theorem tests_testedWith (known : List PlanEntry × CompiledModule)
    (shape : Option DefaultShape) :
    (testedWith renderer d exec module body known shape).start.1.map Draft.tests =
      (known.1.mapM (Item.synthesizeWith renderer (inputsOf module d body exec))).start.1 := by
  have hpure : ∀ tests, OnlyAdds Call.IsRoutine (pure (f := Run SynthesisError)
      ({ module, body, plan := known.1, compiled := known.2, shape, tests } : Draft)) :=
    fun _ => .pure _
  unfold testedWith
  rw [Run.start_bind _ hpure]
  rcases (known.1.mapM (Item.synthesizeWith renderer _)).start with ⟨e | tests, j⟩
  · rfl
  · rfl

/-- The tests do not depend on the look. -/
theorem tests_inspecting (look : Path → List String → Report BuildError DefaultShape) :
    ((s.inspecting look).draftWith renderer path d exec).start.1.map Draft.tests =
      (s.draftWith renderer path d exec).start.1.map Draft.tests := by
  have hrequest : (s.inspecting look).request path d = s.request path d := rfl
  unfold draftWith
  rw [hrequest]
  rcases s.request path d with e | ⟨module, body⟩
  · rfl
  · have hground : (s.inspecting look).groundwork d module = s.groundwork d module := rfl
    show ((s.inspecting look).moduleDraftWith renderer d exec module body).start.1.map _ =
      (s.moduleDraftWith renderer d exec module body).start.1.map _
    have htested := testedWith_onlyAdds renderer d exec module body
    rw [moduleDraftWith, moduleDraftWith, start_bind_inspect _ _ _ htested,
      start_bind_inspect _ _ _ htested, hground]
    rcases (s.groundwork d module).start with ⟨e | known, j⟩
    · rfl
    · show Except.map _ _ = Except.map _ _
      rw [tests_testedWith, tests_testedWith]

/-- A default export that cannot be looked at and one that is absent wire the same slots. -/
theorem wired_valueOf_absent : ∀ answer : Except BuildError DefaultShape,
    HookSlot.wired (some (Step.valueOf .absent answer)) = HookSlot.wired answer.toOption
  | .error _ => rfl
  | .ok _ => rfl

theorem wired_orAbsent :
    HookSlot.wired (s.orAbsent.shapeOf module) = HookSlot.wired (s.shapeOf module) :=
  wired_valueOf_absent _

/-- What is done behind the look. -/
def completeWith (known : List PlanEntry × CompiledModule) (shape : Option DefaultShape) :
    Run SynthesisError String :=
  testedWith renderer d exec module body known shape >>= s.finishWith renderer d exec

theorem completeWith_onlyAdds (known : List PlanEntry × CompiledModule)
    (shape : Option DefaultShape) :
    OnlyAdds Call.IsRoutine (s.completeWith renderer d exec module body known shape) :=
  (testedWith_onlyAdds renderer d exec module body known shape).bind
    (s.finishWith_onlyAdds renderer d exec)

theorem completeWith_orAbsent (known : List PlanEntry × CompiledModule) :
    s.orAbsent.completeWith renderer d exec module body known (s.orAbsent.shapeOf module) =
      s.completeWith renderer d exec module body known (s.shapeOf module) := by
  simp only [completeWith, testedWith, bind_assoc, pure_bind]
  -- the tests are made without what was seen; behind them only the suite asks for it
  refine congrArg _ (funext fun tests => ?_)
  show Suite.assembleWith _ _ _ _ _ _ >>= _ = Suite.assembleWith _ _ _ _ _ _ >>= _
  rw [Suite.assembleWith_congr _ _ _ _ _ (s.wired_orAbsent module)]
  rfl

/-- **A run** for a module that is already named, in its three parts. -/
theorem start_synthesizeWith_of_ok (h : s.request path d = .ok (module, body)) :
    (s.synthesizeWith renderer path d exec).start =
      match (s.groundwork d module).start with
      | (.error e, j) => (.error e, j)
      | (.ok known, j) =>
        let run := (s.completeWith renderer d exec module body known (s.shapeOf module)).start
        (run.1, j ++ (s.inspectJournal module ++ run.2)) := by
  have hrun : s.synthesizeWith renderer path d exec =
      s.groundwork d module >>= fun known => s.inspect module >>=
        s.completeWith renderer d exec module body known := by
    simp only [synthesizeWith_eq, draftWith, moduleDraftWith, h, bind_assoc]
    rfl
  rw [hrun]
  exact s.start_bind_inspect d module (s.completeWith_onlyAdds renderer d exec module body)

/-- A request that names nothing ends the run at once. -/
theorem start_synthesizeWith_of_error {e : SynthesisError} (h : s.request path d = .error e) :
    (s.synthesizeWith renderer path d exec).start = (.error e, {}) := by
  simp only [synthesizeWith_eq, draftWith, h]
  rfl

theorem moduleReference_of_request {s : Synthesizer} {path : Path} {d : Descriptor}
    {module : ModuleReference} {body : TestBody} (h : s.request path d = .ok (module, body)) :
    s.moduleReference path = .ok module := by
  unfold request at h
  split at h
  · cases h
  · cases hmodule : s.moduleReference path with
    | error e =>
        rw [hmodule] at h
        cases h
    | ok named =>
        rw [hmodule] at h
        exact congrArg Except.ok (Prod.mk.inj (Except.ok.inj h)).1

/-- The warning is all that a look that fails reports beside what the build service does. -/
theorem events_inspectJournal (h : s.moduleReference path = .ok module) :
    (s.inspectJournal module).events =
      (s.orAbsent.inspectJournal module).events ++ (s.warning? path).toList := by
  have hwarning : s.warning? path =
      (Step.errorOf (s.build.inspectDefault module.realPath s.options.hookNamespaces).result).map
        (.inspectionFailed module.realPath) := by
    unfold warning?
    rw [h]
  have hother : (s.orAbsent.inspectJournal module).events =
      (s.build.inspectDefault module.realPath s.options.hookNamespaces).events ++ [] := rfl
  have hevents : (s.inspectJournal module).events =
      (s.build.inspectDefault module.realPath s.options.hookNamespaces).events ++
        (Step.errorOf
          (s.build.inspectDefault module.realPath s.options.hookNamespaces).result).toList.map
            (.inspectionFailed module.realPath) := rfl
  rw [hevents, hother, hwarning, List.append_nil, Option.toList_map]

theorem exists_of_mem_warning? {s : Synthesizer} {path : Path} {warning : Event}
    (h : warning ∈ s.warning? path) :
    ∃ module e, s.moduleReference path = .ok module ∧
      warning = .inspectionFailed module.realPath e := by
  unfold warning? at h
  cases hmodule : s.moduleReference path with
  | error e =>
      rw [hmodule] at h
      cases h
  | ok module =>
      rw [hmodule] at h
      obtain ⟨e, -, rfl⟩ := Option.map_eq_some_iff.mp h
      exact ⟨module, e, rfl, rfl⟩

/-- **A look that fails is worth one that sees no default export.**  The run in which a failing look
is answered by "there is none" gives the same result, or the same error, and makes the same calls;
the reports of the other run have one more, the warning that names the module, where the look is
made and fails.  And whatever a look sees: a run is a draft and the rest, the rest does not look,
and the tests of the draft are the same. -/
theorem inspection_degrades :
    (let run := (s.synthesizeWith renderer path d exec).start
      let degraded := (s.orAbsent.synthesizeWith renderer path d exec).start
      run.1 = degraded.1 ∧ run.2.calls = degraded.2.calls ∧
        ∃ before after, degraded.2.events = before ++ after ∧
          run.2.events = before ++
            (if run.2.calls.any Call.isInspect then (s.warning? path).toList else []) ++ after) ∧
    (∀ warning ∈ s.warning? path, ∃ module e, s.moduleReference path = .ok module ∧
      warning = .inspectionFailed module.realPath e ∧ warning.level = .warn) ∧
    ∀ look,
      (s.inspecting look).synthesizeWith renderer path d exec =
        (s.inspecting look).draftWith renderer path d exec >>= s.finishWith renderer d exec ∧
      ((s.inspecting look).draftWith renderer path d exec).start.1.map Draft.tests =
        (s.draftWith renderer path d exec).start.1.map Draft.tests := by
  refine ⟨?_, ?_, fun look => ⟨?_, s.tests_inspecting renderer path d exec look⟩⟩
  · cases hrequest : s.request path d with
    | error e =>
        have hdegraded : s.orAbsent.request path d = .error e := hrequest
        rw [s.start_synthesizeWith_of_error renderer path d exec hrequest,
          s.orAbsent.start_synthesizeWith_of_error renderer path d exec hdegraded]
        exact ⟨rfl, rfl, [], [], rfl, rfl⟩
    | ok request =>
        obtain ⟨module, body⟩ := request
        have hdegraded : s.orAbsent.request path d = .ok (module, body) := hrequest
        have hrun := s.start_synthesizeWith_of_ok renderer path d exec module body hrequest
        have hother := s.orAbsent.start_synthesizeWith_of_ok renderer path d exec module body
          hdegraded
        have hground : s.orAbsent.groundwork d module = s.groundwork d module := rfl
        rw [hground] at hother
        rcases hstart : (s.groundwork d module).start with ⟨e | known, j⟩
        · -- the look is not made
          have hnone := s.any_isInspect_groundwork d module
          rw [hstart] at hrun hother hnone
          rw [hrun, hother]
          refine ⟨rfl, rfl, j.events, [], (List.append_nil _).symm, ?_⟩
          simp only [hnone, Bool.false_eq_true, if_false, List.append_nil]
        · -- it is made, and what is done behind it is the same run in both
          rw [hstart] at hrun hother
          dsimp only at hrun hother
          rw [completeWith_orAbsent] at hother
          have hmodule := moduleReference_of_request hrequest
          rw [hrun, hother]
          refine ⟨rfl, rfl, j.events ++ (s.orAbsent.inspectJournal module).events, _,
            (List.append_assoc _ _ _).symm, ?_⟩
          simp only [Journal.calls_append, Journal.events_append,
            s.events_inspectJournal path module hmodule, List.any_append]
          simp [inspectJournal, Call.isInspect]
  · intro warning hwarning
    obtain ⟨module, e, hmodule, rfl⟩ := exists_of_mem_warning? hwarning
    exact ⟨module, e, hmodule, rfl, rfl⟩
  · exact (s.inspecting look).synthesizeWith_eq renderer path d exec

end Synthesizer

end StorySuite
