import StorySuite.Proofs.Engine.Execution
import StorySuite.Proofs.Engine.Identities
import StorySuite.Proofs.ModuleReference
import StorySuite.Proofs.Synthesis.FinalText

/-!
# Proofs — Engine — what is done before a request is refused

An error is a precondition's where the request itself is no good.  Nothing needs to be done to find
that out, and of a request without a function that makes tests nothing is.  The keys of the settings
are looked at when the suite is put together, behind everything that makes the tests
(`Synthesizer.workSteps`), so a request with a key that is no path of names is refused with the
module analyzed and compiled, the look at its default export taken, and the caller's functions
called.

* `Synthesizer.ends`: the ways in which a run ends.
* `Synthesizer.eq_invalidSetting_iff`: when a key is refused, and what was called by then.
* **`Engine.failsFast_iff`**: which runs call nothing before they refuse a request.
* `Engine.not_forall_failsFast`: not all do.
-/

namespace StorySuite

open Run (Follows)

/-- A run that fails with such an error has called nothing. -/
def Run.FailsFast {ε α : Type} (p : ε → Prop) (r : Run ε α) : Prop :=
  ∀ error, r.start.1 = .error error → p error → r.start.2.calls = []

/-- The error is told as one of the request itself. -/
def EngineError.IsPrecondition (error : EngineError) : Prop :=
  ∃ g, error = .precondition g

/-! ### Steps that find nothing wrong with a request -/

/-- If the step fails, the request as such is not the reason. -/
def Step.IsWork (step : Step) : Prop :=
  ∀ g ∈ step.failure, g.isPrecondition = false

namespace Step.IsWork

theorem of_none {step : Step} (h : step.failure = none) : step.IsWork := by
  intro g hg
  rw [h] at hg
  cases hg

theorem askFallible {α : Type} (c : Call) (callback : Callback) (answer : Except String α) :
    (Step.askFallible c callback answer).IsWork := by
  intro g hg
  obtain ⟨detail, -, rfl⟩ := Option.map_eq_some_iff.mp hg
  rfl

theorem service {α : Type} (c : Call) (answer : Report BuildError α) :
    (Step.service c answer).IsWork := by
  intro g hg
  obtain ⟨b, -, rfl⟩ := Option.map_eq_some_iff.mp hg
  rfl

/-- The error of such steps is no precondition's. -/
theorem error? {steps : List Step} (h : ∀ step ∈ steps, step.IsWork) {g : SynthesisError}
    (hg : Step.error? steps = some g) : g.isPrecondition = false := by
  obtain ⟨step, hstep, hfailure⟩ := List.exists_of_findSome?_eq_some hg
  exact h step hstep g hfailure

end Step.IsWork

theorem Plan.steps_isWork (exports : List ExportName) (module : ModuleReference)
    (d : Descriptor) : ∀ step ∈ steps exports module d, step.IsWork := by
  intro step hstep
  cases isPlanning_of_mem_steps exports module d step hstep with
  | ask h => exact .of_none rfl
  | askFallible h => exact .askFallible _ _ _
  | report selected => exact .of_none rfl
  | check selected =>
      intro g hg
      obtain ⟨story, -, rfl⟩ := Option.map_eq_some_iff.mp hg
      rfl

/-! ### Synthesis -/

namespace Synthesizer

variable (s : Synthesizer) (module : ModuleReference) (d : Descriptor) (body : TestBody)
  (exec : ExecContext) (path : Path)

/-- The steps of a run before it looks at the settings. -/
def workSteps : List Step :=
  s.groundworkSteps module d ++
    (s.inspectStep module ::
      (s.entriesOf module d).flatMap (Item.activationSteps (inputsOf module d body exec)))

/-- The steps of a run after it has looked at the settings. -/
def closingSteps : List Step :=
  .service (.normalize module.virtualPath module.dialect) (s.normalized module d body exec) ::
    (transformSteps d.transform ++ [.report (s.finished module d body)])

theorem moduleAgenda_eq :
    s.moduleAgenda module d body exec ++ [.report (s.finished module d body)] =
      s.workSteps module d body exec ++
        (Suite.settingsStep (s.suiteOptions exec) :: s.closingSteps module d body exec) := by
  simp [moduleAgenda, workSteps, groundworkSteps, closingSteps]

theorem workSteps_isWork : ∀ step ∈ s.workSteps module d body exec, step.IsWork := by
  have hground : ∀ step ∈ s.groundworkSteps module d, step.IsWork := by
    simp only [groundworkSteps, List.forall_mem_append, List.forall_mem_singleton]
    exact ⟨.service _ _, .of_none rfl, Plan.steps_isWork _ module d, .service _ _⟩
  have hactivation : ∀ step ∈ (s.entriesOf module d).flatMap
      (Item.activationSteps (inputsOf module d body exec)), step.IsWork := by
    intro step hstep
    obtain ⟨entry, -, hstep⟩ := List.mem_flatMap.mp hstep
    unfold Item.activationSteps at hstep
    split at hstep
    · cases hstep
    · exact List.mem_singleton.mp hstep ▸ .of_none rfl
  exact List.forall_mem_append.mpr
    ⟨hground, List.forall_mem_cons.mpr ⟨.of_none rfl, hactivation⟩⟩

theorem closingSteps_isWork : ∀ step ∈ s.closingSteps module d body exec, step.IsWork := by
  have htransform : ∀ step ∈ transformSteps d.transform, step.IsWork := by
    unfold transformSteps
    split
    · exact List.forall_mem_nil _
    · exact List.forall_mem_singleton.mpr (.of_none rfl)
  simp only [closingSteps, List.forall_mem_cons, List.forall_mem_append]
  exact ⟨.service _ _, htransform, .of_none rfl, List.forall_mem_nil _⟩

/-- How a run ends that leaves `start` behind. -/
inductive Ends (start : Except SynthesisError String × Journal) : Prop where
  /-- The request has no function that makes tests. -/
  | bodiless (hbody : d.body = none) (hstart : start = (.error .missingTestBody, {}))
  /-- Whatever the result is, the request as such is not the reason for it. -/
  | past (hstart : ∀ g, start.1 = .error g → g.isPrecondition = false)
  /-- The work is done, and then a key of a setting is refused. -/
  | refused {body : TestBody} {module : ModuleReference} {key : String} (hbody : d.body = some body)
      (hmodule : s.moduleReference path = .ok module)
      (hwork : Step.error? (s.workSteps module d body exec) = none)
      (hkey : Suite.invalidKey? exec.settings = some key)
      (hstart : start = (.error (.invalidSetting key),
        { calls := (s.workSteps module d body exec).filterMap Step.call
          events := (s.workSteps module d body exec).flatMap Step.events }))

/-- A path that names no module is the build's error. -/
theorem isPrecondition_of_moduleReference {g : SynthesisError}
    (h : s.moduleReference path = .error g) : g.isPrecondition = false := by
  unfold moduleReference at h
  cases hnew : ModuleReference.new path s.options.cwd with
  | ok module =>
      rw [hnew] at h
      cases h
  | error b =>
      rw [hnew] at h
      cases h
      rfl

/-- A key that is no path of names is refused behind all work. -/
theorem start_of_invalidKey {key : String} (hbody : d.body = some body)
    (hmodule : s.moduleReference path = .ok module)
    (hwork : Step.error? (s.workSteps module d body exec) = none)
    (hkey : Suite.invalidKey? exec.settings = some key) :
    (s.synthesize path d exec).start = (.error (.invalidSetting key),
      { calls := (s.workSteps module d body exec).filterMap Step.call
        events := (s.workSteps module d body exec).flatMap Step.events }) := by
  have hsettings : Suite.settingsStep (s.suiteOptions exec) =
      .check (some (.invalidSetting key)) := by
    unfold Suite.settingsStep suiteOptions
    rw [hkey]
    rfl
  have hfollows := s.synthesize_follows_of_ok module d body exec path hbody hmodule
  rw [moduleAgenda_eq, hsettings] at hfollows
  rw [hfollows.start]
  unfold Run.outcome Step.calls Step.reports
  rw [Step.error?_append_of_ok _ hwork, Step.made_append_of_ok _ hwork, List.filterMap_append,
    List.flatMap_append]
  simp [Step.error?, Step.made, Step.check]

/-- **Every run ends** in one of these ways. -/
theorem ends : s.Ends d exec path (s.synthesize path d exec).start := by
  cases hbody : d.body with
  | none => exact .bodiless hbody (s.synthesize_follows_of_none d exec path "" hbody).start
  | some body =>
      -- a run asks for its module first, then it works, and the settings are looked at last
      cases hmodule : s.moduleReference path with
      | error e =>
          refine .past fun g hg => ?_
          rw [(s.synthesize_follows_of_error d body exec path "" hbody hmodule).start] at hg
          cases hg
          exact s.isPrecondition_of_moduleReference path hmodule
      | ok module =>
          have hfollows := s.synthesize_follows_of_ok module d body exec path hbody hmodule
          rw [moduleAgenda_eq] at hfollows
          cases hwork : Step.error? (s.workSteps module d body exec) with
          | some e =>
              refine .past fun g hg => ?_
              rw [start_of_error _ hfollows hwork] at hg
              cases hg
              exact Step.IsWork.error? (s.workSteps_isWork module d body exec) hwork
          | none =>
              cases hkey : Suite.invalidKey? exec.settings with
              | some key =>
                  exact .refused hbody hmodule hwork hkey
                    (s.start_of_invalidKey module d body exec path hbody hmodule hwork hkey)
              | none =>
                  refine .past fun g hg => ?_
                  have hsettings : Suite.settingsStep (s.suiteOptions exec) = .check none := by
                    unfold Suite.settingsStep suiteOptions
                    rw [hkey]
                    rfl
                  rw [hsettings] at hfollows
                  obtain ⟨step, hstep, hfailure⟩ := exists_failure_of_follows hfollows hg
                  rcases List.mem_append.mp hstep with hstep | hstep
                  · exact s.workSteps_isWork module d body exec step hstep g hfailure
                  · rcases List.mem_cons.mp hstep with rfl | hstep
                    · cases hfailure
                    · exact s.closingSteps_isWork module d body exec step hstep g hfailure

/-- The calls that are made before the settings are looked at. -/
theorem workSteps_calls :
    (s.workSteps module d body exec).filterMap Step.call =
      .analyze module.realPath ::
        ((Plan.steps (s.exportsOf module) module d).filterMap Step.call ++
          .compile module.realPath module.dialect ::
          .inspect module.realPath s.options.hookNamespaces ::
          ((s.entriesOf module d).flatMap
            (Item.activationSteps (inputsOf module d body exec))).filterMap Step.call) := by
  simp [workSteps, groundworkSteps, List.filterMap_append, Step.service, Step.report, inspectStep]

/-- **A key is refused** by a run of which all work succeeds, and behind it. -/
theorem eq_invalidSetting_iff {key : String} :
    (s.synthesize path d exec).start.1 = .error (.invalidSetting key) ↔
      ∃ body module, d.body = some body ∧ s.moduleReference path = .ok module ∧
        Step.error? (s.workSteps module d body exec) = none ∧
        Suite.invalidKey? exec.settings = some key := by
  constructor
  · intro h
    cases s.ends d exec path with
    | bodiless hbody hstart =>
        rw [hstart] at h
        cases h
    | past hstart => exact absurd (hstart _ h) Bool.noConfusion
    | refused hbody hmodule hwork hkey hstart =>
        rw [hstart] at h
        cases h
        exact ⟨_, _, hbody, hmodule, hwork, hkey⟩
  · rintro ⟨body, module, hbody, hmodule, hwork, hkey⟩
    rw [s.start_of_invalidKey module d body exec path hbody hmodule hwork hkey]

/-- A run fails fast unless it refuses a key. -/
theorem failsFast_iff_forall_ne :
    (s.synthesize path d exec).FailsFast (·.isPrecondition = true) ↔
      ∀ key, (s.synthesize path d exec).start.1 ≠ .error (.invalidSetting key) := by
  constructor
  · intro h key hkey
    obtain ⟨body, module, hbody, hmodule, hwork, hfirst⟩ :=
      (s.eq_invalidSetting_iff d exec path).mp hkey
    have hnone := h _ hkey rfl
    rw [s.start_of_invalidKey module d body exec path hbody hmodule hwork hfirst,
      workSteps_calls] at hnone
    cases hnone
  · intro h g hg hown
    cases s.ends d exec path with
    | bodiless hbody hstart => rw [hstart]
    | past hstart =>
        rw [hstart g hg] at hown
        cases hown
    | refused hbody hmodule hwork hkey hstart =>
        exact absurd (congrArg Prod.fst hstart) (h _)

end Synthesizer

/-! ### Engines -/

namespace Engine

variable (e : Engine) (path : Path) (d : Descriptor) (exec : ExecContext)

theorem synthesize_eq_error_iff {error : EngineError} :
    (e.synthesize path d exec).start.1 = .error error ↔
      ∃ g, (e.synthesizer.synthesize path d exec).start.1 = .error g ∧ .ofSynthesis g = error := by
  rw [start_synthesize]
  cases (e.synthesizer.synthesize path d exec).start.1 with
  | ok code => exact ⟨nofun, nofun⟩
  | error g => simp [Except.mapError]

theorem synthesize_eq_precondition_iff {g : SynthesisError} :
    (e.synthesize path d exec).start.1 = .error (.precondition g) ↔
      (e.synthesizer.synthesize path d exec).start.1 = .error g ∧ g.isPrecondition = true := by
  rw [synthesize_eq_error_iff]
  constructor
  · rintro ⟨g', hg', h⟩
    obtain ⟨rfl, hown⟩ := EngineError.ofSynthesis_eq_precondition_iff.mp h
    exact ⟨hg', hown⟩
  · rintro ⟨hg, hown⟩
    exact ⟨g, hg, EngineError.ofSynthesis_eq_precondition_iff.mpr ⟨rfl, hown⟩⟩

/-- An engine fails as fast as its synthesis. -/
theorem failsFast_synthesize_iff :
    (e.synthesize path d exec).FailsFast EngineError.IsPrecondition ↔
      (e.synthesizer.synthesize path d exec).FailsFast (·.isPrecondition = true) := by
  have hcalls : (e.synthesize path d exec).start.2 =
      (e.synthesizer.synthesize path d exec).start.2 :=
    congrArg Prod.snd (e.start_synthesize path d exec)
  constructor
  · intro h g hg hown
    rw [← hcalls]
    exact h _ ((e.synthesize_eq_precondition_iff path d exec).mpr ⟨hg, hown⟩) ⟨g, rfl⟩
  · rintro h error herror ⟨g, rfl⟩
    obtain ⟨hg, hown⟩ := (e.synthesize_eq_precondition_iff path d exec).mp herror
    rw [hcalls]
    exact h g hg hown

/-- An execution fails as fast as the synthesis in it. -/
theorem failsFast_execute (h : (e.synthesize path d exec).FailsFast EngineError.IsPrecondition) :
    (e.execute path d exec).FailsFast EngineError.IsPrecondition := by
  rintro error herror ⟨g, rfl⟩
  have hexecute := e.start_execute path d exec
  rcases hstart : (e.synthesize path d exec).start with ⟨error | code, j⟩
  · rw [hstart] at hexecute
    have hrun : (e.execute path d exec).start = (.error error, j) := hexecute
    rw [hrun] at herror ⊢
    have hnone := h error (congrArg Prod.fst hstart) ⟨g, Except.error.inj herror⟩
    rwa [hstart] at hnone
  · -- behind a synthesis that succeeds, errors are the sandbox'
    rw [hstart] at hexecute
    obtain ⟨module, -, hrun⟩ : ∃ module, e.synthesizer.moduleReference path = .ok module ∧ _ :=
      hexecute
    rw [hrun] at herror
    obtain ⟨r, -, hr⟩ := EngineError.Classed.mapError_execution_eq_error_iff.mp herror
    cases hr

/-- **Which runs call nothing before they refuse a request**: a synthesis does so exactly if it does
not refuse the key of a setting, and an execution, which has no settings, does so always.  The first
key that is no path of names is refused if the request has a function that makes tests, the path
names a module, and all work succeeds; by then the module is analyzed, planned for, compiled and
looked at, and the caller's predicate has decided on each test. -/
theorem failsFast_iff (arguments : List String) :
    ((e.synthesizer.synthesize path d exec).FailsFast (·.isPrecondition = true) ↔
      ∀ key, (e.synthesizer.synthesize path d exec).start.1 ≠ .error (.invalidSetting key)) ∧
    ((e.synthesize path d exec).FailsFast EngineError.IsPrecondition ↔
      ∀ key, (e.synthesize path d exec).start.1 ≠ .error (.precondition (.invalidSetting key))) ∧
    (e.executeIn arguments path d).FailsFast EngineError.IsPrecondition ∧
    (∀ key, (e.synthesizer.synthesize path d exec).start.1 = .error (.invalidSetting key) ↔
      ∃ body module, d.body = some body ∧ e.synthesizer.moduleReference path = .ok module ∧
        Step.error? (e.synthesizer.workSteps module d body exec) = none ∧
        Suite.invalidKey? exec.settings = some key) ∧
    ∀ key body module,
      (e.synthesizer.synthesize path d exec).start.1 = .error (.invalidSetting key) →
      d.body = some body → e.synthesizer.moduleReference path = .ok module →
        (e.synthesizer.synthesize path d exec).start.2.calls =
          .analyze module.realPath ::
            ((Plan.steps (e.synthesizer.exportsOf module) module d).filterMap Step.call ++
              .compile module.realPath module.dialect ::
              .inspect module.realPath e.synthesizer.options.hookNamespaces ::
              ((e.synthesizer.entriesOf module d).flatMap
                (Item.activationSteps (Synthesizer.inputsOf module d body exec))).filterMap
                  Step.call) := by
  -- the engine refuses a request exactly where its synthesis does
  have hengine : ∀ exec, (e.synthesize path d exec).FailsFast EngineError.IsPrecondition ↔
      ∀ key, (e.synthesize path d exec).start.1 ≠ .error (.precondition (.invalidSetting key)) := by
    intro exec
    rw [failsFast_synthesize_iff, Synthesizer.failsFast_iff_forall_ne]
    refine forall_congr' fun key => not_congr ?_
    rw [synthesize_eq_precondition_iff]
    exact ⟨fun h => ⟨h, rfl⟩, And.left⟩
  refine ⟨e.synthesizer.failsFast_iff_forall_ne d exec path, hengine exec, ?_,
    fun key => e.synthesizer.eq_invalidSetting_iff d exec path, ?_⟩
  · -- the arguments of a process come without settings
    refine e.failsFast_execute path d _ ((hengine (.ofProcess arguments)).mpr fun key h => ?_)
    obtain ⟨hkey, -⟩ := (e.synthesize_eq_precondition_iff path d _).mp h
    obtain ⟨body, module, -, -, -, hfirst⟩ :=
      (e.synthesizer.eq_invalidSetting_iff d _ path).mp hkey
    cases hfirst
  · intro key body module hkey hbody hmodule
    obtain ⟨body', module', hbody', hmodule', hwork, hfirst⟩ :=
      (e.synthesizer.eq_invalidSetting_iff d exec path).mp hkey
    cases hbody.symm.trans hbody'
    cases hmodule.symm.trans hmodule'
    rw [e.synthesizer.start_of_invalidKey module d body exec path hbody hmodule hwork hfirst]
    exact e.synthesizer.workSteps_calls module d body exec

/-- The engine of `/p` with services that always answer. -/
def answering : Engine :=
  configured (configOf "/p") Synthesizer.echoing.build absentHost ⟨"/p"⟩

/-- A request that asks for nothing but tests. -/
def plainRequest : Descriptor :=
  { body := some (.inline ⟨"() => () => 1", .sync⟩) }

/-- Surroundings with a setting whose key is no path of names. -/
def blankKey : ExecContext :=
  { settings := [("bad key", .number (.whole 1))] }

/-- The path `A.js` names a module there. -/
theorem exists_answering_module : ∃ module : ModuleReference,
    answering.synthesizer.moduleReference ⟨"A.js"⟩ = .ok module ∧
      module.realPath = ⟨"/p/A.js"⟩ ∧ module.dialect = .js := by
  have hknown : Dialect.ofPath? ⟨"A.js"⟩ = some .js := by decide +kernel
  have hcwd : (Path.mk "/p").isAbsolute = true := by decide
  obtain ⟨module, hmodule, hdialect⟩ := ModuleReference.exists_new_of_dialect hknown hcwd
  refine ⟨module, ?_, (ModuleReference.new_paths hmodule).1, hdialect⟩
  show (ModuleReference.new ⟨"A.js"⟩ ⟨"/p"⟩).mapError _ = _
  rw [hmodule]
  rfl

/-- The key is the first that is no path of names. -/
theorem invalidKey?_blankKey : Suite.invalidKey? blankKey.settings = some "bad key" := by
  decide +kernel

/-- The key is refused when the module is analyzed, compiled and looked at. -/
theorem blankKey_refused :
    (answering.synthesizer.synthesize ⟨"A.js"⟩ plainRequest blankKey).start.1 =
        .error (.invalidSetting "bad key") ∧
      (answering.synthesizer.synthesize ⟨"A.js"⟩ plainRequest blankKey).start.2.calls =
        [.analyze ⟨"/p/A.js"⟩, .compile ⟨"/p/A.js"⟩ .js,
          .inspect ⟨"/p/A.js"⟩ ["parameters", "test"]] ∧
      ∀ arguments, (answering.executeIn arguments ⟨"A.js"⟩ plainRequest).FailsFast
        EngineError.IsPrecondition := by
  obtain ⟨module, hmodule, hreal, hdialect⟩ := exists_answering_module
  have hspec := answering.failsFast_iff ⟨"A.js"⟩ plainRequest blankKey
  obtain ⟨-, -, -, hrefused, hcalls⟩ := hspec []
  have hkey := (hrefused "bad key").mpr ⟨_, module, rfl, hmodule, rfl, invalidKey?_blankKey⟩
  refine ⟨hkey, ?_, fun arguments => (hspec arguments).2.2.1⟩
  rw [hcalls _ _ module hkey rfl hmodule, hreal, hdialect]
  rfl

/-- **Not every run** calls nothing before it refuses a request, of a synthesizer or of an engine:
one that refuses the key of a setting does not. -/
theorem not_forall_failsFast :
    (¬ ∀ (s : Synthesizer) (path : Path) (d : Descriptor) (exec : ExecContext),
      (s.synthesize path d exec).FailsFast (·.isPrecondition = true)) ∧
    ¬ ∀ (e : Engine) (path : Path) (d : Descriptor) (exec : ExecContext),
      (e.synthesize path d exec).FailsFast EngineError.IsPrecondition := by
  obtain ⟨module, hmodule, -⟩ := exists_answering_module
  have hkey := (answering.synthesizer.eq_invalidSetting_iff plainRequest blankKey ⟨"A.js"⟩).mpr
    ⟨_, module, rfl, hmodule, rfl, invalidKey?_blankKey⟩
  have hslow : ¬ (answering.synthesizer.synthesize ⟨"A.js"⟩ plainRequest blankKey).FailsFast
      (·.isPrecondition = true) := fun h =>
    (answering.synthesizer.failsFast_iff_forall_ne plainRequest blankKey _).mp h "bad key" hkey
  exact ⟨fun h => hslow (h _ _ _ _),
    fun h => hslow ((answering.failsFast_synthesize_iff _ _ _).mp (h _ _ _ _))⟩

end Engine

end StorySuite
