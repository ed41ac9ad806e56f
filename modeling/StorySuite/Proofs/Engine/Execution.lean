import StorySuite.Engine
import StorySuite.Proofs.Synthesis.Inspection

/-!
# Proofs — Engine — making a suite and running it

An execution names the module, makes its suite and hands the suite to a host.  It does not go
through the engine's synthesis, but it comes to it: an execution is that synthesis, and behind one
that succeeds a run in the sandbox (`start_execute`), which calls the host once where the suite is a
program and not at all where it is none (`Sandbox.start_run_of_ok`, `Sandbox.start_run_of_error`).

An error says by its class who has to act on it, and the class says where it comes from
(`EngineError.Classed`).

* `Synthesizer.fails_of_build`: where a build error comes from.
* **`Engine.execute_refines`**: all of it, for an engine in a process.
-/

namespace StorySuite

open Run (OnlyAdds Follows)

/-! ### Errors told as the engine's -/

namespace EngineError

variable {g g' : SynthesisError}

theorem ofSynthesis_eq_resolution_iff {b : BuildError} :
    ofSynthesis g = .resolution b ↔ g = .build b := by
  cases g <;> simp [ofSynthesis, SynthesisError.isPrecondition]

theorem ofSynthesis_eq_precondition_iff :
    ofSynthesis g = .precondition g' ↔ g = g' ∧ g'.isPrecondition = true := by
  have hown : ofSynthesis g = .precondition g' ↔ g = g' ∧ g.isPrecondition = true := by
    cases g <;> simp [ofSynthesis, SynthesisError.isPrecondition]
  rw [hown]
  exact and_congr_right fun h => by rw [h]

theorem ofSynthesis_eq_synthesis_iff :
    ofSynthesis g = .synthesis g' ↔
      g = g' ∧ g'.isPrecondition = false ∧ ∀ b, g' ≠ .build b := by
  have hown : ofSynthesis g = .synthesis g' ↔
      g = g' ∧ g.isPrecondition = false ∧ ∀ b, g ≠ .build b := by
    cases g <;> simp [ofSynthesis, SynthesisError.isPrecondition]
  rw [hown]
  exact and_congr_right fun h => by rw [h]

theorem ofSynthesis_ne_execution {r : SandboxError} : ofSynthesis g ≠ .execution r := by
  cases g <;> simp [ofSynthesis, SynthesisError.isPrecondition]

theorem ofSynthesis_ne_config {c : ConfigError} : ofSynthesis g ≠ .config c := by
  cases g <;> simp [ofSynthesis, SynthesisError.isPrecondition]

/-- The errors of `result` are told by where they come from: `suite` is what synthesis gives, in its
own words, and `fails` holds of the errors of the sandbox. -/
structure Classed {α : Type} (suite : Except SynthesisError String) (fails : SandboxError → Prop)
    (result : Except EngineError α) : Prop where
  resolution : ∀ b, result = .error (.resolution b) ↔ suite = .error (.build b)
  precondition : ∀ g,
    result = .error (.precondition g) ↔ suite = .error g ∧ g.isPrecondition = true
  execution : ∀ r, result = .error (.execution r) ↔ fails r
  synthesis : ∀ g,
    result = .error (.synthesis g) ↔
      suite = .error g ∧ g.isPrecondition = false ∧ ∀ b, g ≠ .build b
  config : ∀ c, result ≠ .error (.config c)

namespace Classed

variable {α : Type} {fails : SandboxError → Prop}

/-- Synthesis fails. -/
theorem of_error (g : SynthesisError) (hfails : ∀ r, ¬ fails r) :
    Classed (.error g) fails (.error (ofSynthesis g) : Except EngineError α) := by
  constructor
  · intro b
    rw [Except.error.injEq, Except.error.injEq, ofSynthesis_eq_resolution_iff]
  · intro g'
    rw [Except.error.injEq, Except.error.injEq, ofSynthesis_eq_precondition_iff]
  · intro r
    rw [Except.error.injEq]
    exact ⟨fun h => absurd h ofSynthesis_ne_execution, fun h => absurd h (hfails r)⟩
  · intro g'
    rw [Except.error.injEq, Except.error.injEq, ofSynthesis_eq_synthesis_iff]
  · intro c h
    exact ofSynthesis_ne_config (Except.error.inj h)

theorem mapError_execution_eq_error_iff {run : Except SandboxError α} {error : EngineError} :
    run.mapError .execution = .error error ↔ ∃ r, run = .error r ∧ error = .execution r := by
  cases run with
  | ok a =>
      constructor
      · intro h
        cases h
      · rintro ⟨r, h, -⟩
        cases h
  | error r =>
      constructor
      · intro h
        cases h
        exact ⟨r, rfl, rfl⟩
      · rintro ⟨r', h, rfl⟩
        cases h
        rfl

/-- Synthesis succeeds, and the sandbox has its say. -/
theorem of_ok (code : String) (run : Except SandboxError α)
    (hfails : ∀ r, fails r ↔ run = .error r) :
    Classed (.ok code) fails (run.mapError .execution) := by
  -- an error that is there is the sandbox's, and synthesis has none
  have hother : ∀ error, (∀ r, error ≠ EngineError.execution r) →
      run.mapError EngineError.execution ≠ .error error := by
    intro error hne h
    obtain ⟨r, -, hr⟩ := mapError_execution_eq_error_iff.mp h
    exact hne r hr
  constructor
  · intro b
    exact iff_of_false (hother _ fun r h => by cases h) fun h => by cases h
  · intro g
    exact iff_of_false (hother _ fun r h => by cases h) fun h => by cases h.1
  · intro r
    rw [hfails r, mapError_execution_eq_error_iff]
    constructor
    · rintro ⟨r', h, hr⟩
      cases hr
      exact h
    · intro h
      exact ⟨r, h, rfl⟩
  · intro g
    exact iff_of_false (hother _ fun r h => by cases h) fun h => by cases h.1
  · intro c
    exact hother _ fun r h => by cases h

end Classed

end EngineError

namespace Engine

theorem start_lift {ε α : Type} (wrap : ε → EngineError) (r : Run ε α) :
    (lift wrap r).start = (r.start.1.mapError wrap, r.start.2) :=
  rfl

theorem lift_onlyAdds {ε α : Type} {p : Call → Prop} {wrap : ε → EngineError} {r : Run ε α}
    (h : OnlyAdds p r) : OnlyAdds p (lift wrap r) := by
  refine .of_runFrom_eq (x := r.start.1.mapError wrap) (k := r.start.2) (fun j => ?_) h.calls
  show ((r.runFrom j).1.mapError wrap, (r.runFrom j).2) = _
  rw [h.runFrom_eq j]

end Engine

/-! ### A run in the sandbox -/

namespace Sandbox

variable (s : Sandbox) (module : ModuleReference) (code : String)

/-- A text is made a script if it is a program. -/
theorem exists_prepare_iff :
    (∃ script, s.prepare module code = .ok script) ↔
      (Script.Program.parse? { dialect := .js, isModule := false } code).isSome := by
  rw [← Option.isSome_map (f := Script.Program.requires)]
  show _ ↔ (Script.requires? code).isSome
  unfold prepare
  cases Script.requires? code with
  | none => simp
  | some names => simp

/-- The host is not called with a text that is no program. -/
theorem start_run_of_error {r : SandboxError} (h : s.prepare module code = .error r) :
    (s.run module code).start = (.error r, {}) := by
  simp only [run, h]
  rfl

/-- The host is called once with the script of a program, and what it answers is the result. -/
theorem start_run_of_ok {script : SandboxScript} (h : s.prepare module code = .ok script) :
    (s.run module code).start =
      ((s.host.run script).result,
        { calls := [.run script]
          events := .sandboxRunning module.realPath (script.requires.map (·.1)) ::
            (s.host.run script).events }) := by
  have hrun : s.run module code = (do
      Run.event (.sandboxRunning module.realPath (script.requires.map (·.1)))
      Run.call (.run script)
      Run.ofReport id (s.host.run script)) := by
    simp only [run, h]
    rfl
  rw [hrun]
  rcases s.host.run script with ⟨events, r | outcome⟩
  · rfl
  · rfl

/-- The host is called with the script of the text, if there is one, and with nothing else. -/
theorem calls_run :
    (s.run module code).start.2.calls = (s.prepare module code).toOption.toList.map .run := by
  cases h : s.prepare module code with
  | error r =>
      rw [s.start_run_of_error module code h]
      rfl
  | ok script =>
      rw [s.start_run_of_ok module code h]
      rfl

theorem mem_calls_run_iff {script : SandboxScript} :
    .run script ∈ (s.run module code).start.2.calls ↔ s.prepare module code = .ok script := by
  rw [calls_run]
  cases s.prepare module code with
  | error r => simp [Except.toOption]
  | ok script' => simp [Except.toOption, eq_comm]

theorem countP_calls_run : (s.run module code).start.2.calls.countP Call.isRun ≤ 1 := by
  rw [calls_run]
  refine Nat.le_trans List.countP_le_length ?_
  rw [List.length_map]
  exact Option.length_toList_le

theorem run_onlyAdds : OnlyAdds (fun c => c.isRun = true) (s.run module code) := by
  refine (OnlyAdds.ofExcept id _).bind fun script => ?_
  refine (OnlyAdds.event _).bind fun _ => ?_
  have hcall : OnlyAdds (fun c => c.isRun = true) (Run.call (.run script) : Run SandboxError Unit) :=
    .call rfl
  exact hcall.bind fun _ => .ofReport id _

end Sandbox

/-! ### Where build errors come from -/

/-- A build service gives the error in one of the answers that synthesis needs; a look at a default
export is not one of them. -/
inductive BuildService.Fails (build : BuildService) (b : BuildError) : Prop where
  | analyze {path : Path} (h : (build.analyzeExports path).result = .error b)
  | compile {path : Path} {dialect : Dialect}
      (h : (build.compileModule path dialect).result = .error b)
  | normalize {text : String} {path : Path} {dialect : Dialect}
      (h : (build.normalize text path dialect).result = .error b)

/-- If the step fails with a build error, it is a build service's. -/
def Step.FailsWith (build : BuildService) (step : Step) : Prop :=
  ∀ b, step.failure = some (.build b) → build.Fails b

namespace Step.FailsWith

variable {build : BuildService}

theorem of_none {step : Step} (h : step.failure = none) : step.FailsWith build := by
  intro b hb
  rw [h] at hb
  cases hb

theorem check {failure : Option SynthesisError} (h : ∀ b, failure ≠ some (.build b)) :
    (Step.check failure).FailsWith build :=
  fun b hb => absurd hb (h b)

theorem askFallible {α : Type} (c : Call) (callback : Callback) (answer : Except String α) :
    (Step.askFallible c callback answer).FailsWith build := by
  intro b hb
  cases answer with
  | ok a => cases hb
  | error detail => cases hb

theorem service {α : Type} {c : Call} {answer : Report BuildError α}
    (h : ∀ b, answer.result = .error b → build.Fails b) :
    (Step.service c answer).FailsWith build := by
  intro b hb
  refine h b ?_
  have herror : (Step.errorOf answer.result).map SynthesisError.build = some (.build b) := hb
  cases hresult : answer.result with
  | ok a =>
      rw [hresult] at herror
      cases herror
  | error b' =>
      rw [hresult] at herror
      cases herror
      rfl

end Step.FailsWith

namespace Plan

/-- Making a plan needs no build service. -/
theorem steps_failsWith {build : BuildService} (exports : List ExportName)
    (module : ModuleReference) (d : Descriptor) :
    ∀ step ∈ steps exports module d, step.FailsWith build := by
  intro step hstep
  cases isPlanning_of_mem_steps exports module d step hstep with
  | ask h => exact .of_none rfl
  | askFallible h => exact .askFallible _ _ _
  | report selected => exact .of_none rfl
  | check selected =>
      refine .check fun b h => ?_
      obtain ⟨story, -, hstory⟩ := Option.map_eq_some_iff.mp h
      cases hstory

end Plan

namespace Synthesizer

variable (s : Synthesizer) (module : ModuleReference) (d : Descriptor) (body : TestBody)
  (exec : ExecContext) (path : Path)

theorem moduleAgenda_failsWith :
    ∀ step ∈ s.moduleAgenda module d body exec, step.FailsWith s.build := by
  have hactivation : ∀ step ∈ (s.entriesOf module d).flatMap
      (Item.activationSteps (inputsOf module d body exec)), step.FailsWith s.build := by
    intro step hstep
    obtain ⟨entry, -, hstep⟩ := List.mem_flatMap.mp hstep
    unfold Item.activationSteps at hstep
    split at hstep
    · cases hstep
    · exact List.mem_singleton.mp hstep ▸ .of_none rfl
  have hsettings : (Suite.settingsStep (s.suiteOptions exec)).FailsWith s.build := by
    refine .check fun b h => ?_
    obtain ⟨key, -, hkey⟩ := Option.map_eq_some_iff.mp h
    cases hkey
  have htransform : ∀ step ∈ transformSteps d.transform, step.FailsWith s.build := by
    unfold transformSteps
    split
    · exact List.forall_mem_nil _
    · exact List.forall_mem_singleton.mpr (.of_none rfl)
  simp only [moduleAgenda, List.forall_mem_cons, List.forall_mem_append]
  exact ⟨.service fun _ h => .analyze h, .of_none rfl, Plan.steps_failsWith _ module d,
    .service fun _ h => .compile h, .of_none rfl, hactivation, hsettings,
    .service fun _ h => .normalize h, htransform⟩

/-- The result of a run that follows steps is an error of one of them. -/
theorem exists_failure_of_follows {α : Type} {r : Run SynthesisError α} {steps : List Step} {a : α}
    {g : SynthesisError} (h : Follows r steps a) (hg : r.start.1 = .error g) :
    ∃ step ∈ steps, step.failure = some g := by
  rw [h.start] at hg
  cases herror : Step.error? steps with
  | none =>
      rw [Run.outcome_of_ok a herror] at hg
      cases hg
  | some g' =>
      rw [Run.outcome_of_error a herror] at hg
      cases hg
      exact List.exists_of_findSome?_eq_some herror

/-- **A build error** is that the path names no module, or the build service gives it. -/
theorem fails_of_build {b : BuildError}
    (h : (s.synthesize path d exec).start.1 = .error (.build b)) :
    s.moduleReference path = .error (.build b) ∨ s.build.Fails b := by
  cases hbody : d.body with
  | none =>
      have hfollows := s.synthesize_follows_of_none d exec path "" hbody
      obtain ⟨step, hstep, hfailure⟩ := exists_failure_of_follows hfollows h
      rw [List.mem_singleton.mp hstep] at hfailure
      cases hfailure
  | some body =>
      cases hmodule : s.moduleReference path with
      | error g =>
          have hfollows := s.synthesize_follows_of_error d body exec path "" hbody hmodule
          obtain ⟨step, hstep, hfailure⟩ := exists_failure_of_follows hfollows h
          rw [List.mem_singleton.mp hstep] at hfailure
          cases hfailure
          exact .inl rfl
      | ok module =>
          have hfollows := s.synthesize_follows_of_ok module d body exec path hbody hmodule
          obtain ⟨step, hstep, hfailure⟩ := exists_failure_of_follows hfollows h
          rcases List.mem_append.mp hstep with hstep | hstep
          · exact .inr (s.moduleAgenda_failsWith module d body exec step hstep b hfailure)
          · rw [List.mem_singleton.mp hstep] at hfailure
            cases hfailure

/-- Synthesis hands nothing to a host. -/
theorem synthesizeWith_onlyAdds (renderer : Renderer) :
    OnlyAdds (fun c => c.isRun = false) (s.synthesizeWith renderer path d exec) := by
  have hroutine : ∀ c : Call, c.IsRoutine → c.isRun = false := fun _ h => h.2
  rw [synthesizeWith_eq]
  refine OnlyAdds.bind ?_ fun draft => (s.finishWith_onlyAdds renderer d exec draft).mono hroutine
  refine (OnlyAdds.ofExcept id _).bind fun (module, body) => ?_
  refine ((s.groundwork_onlyAdds d module).mono hroutine).bind fun known => ?_
  refine (s.inspect_onlyAdds module).bind fun shape => ?_
  exact (testedWith_onlyAdds renderer d exec module body known shape).mono hroutine

end Synthesizer

/-! ### An execution -/

namespace Engine

variable (e : Engine) (path : Path) (d : Descriptor) (exec : ExecContext)

theorem start_synthesize :
    (e.synthesize path d exec).start =
      ((e.synthesizer.synthesize path d exec).start.1.mapError .ofSynthesis,
        (e.synthesizer.synthesize path d exec).start.2) :=
  start_lift .ofSynthesis (e.synthesizer.synthesize path d exec)

/-- **An execution** is a synthesis, and behind one that succeeds a run in the sandbox. -/
theorem start_execute :
    match (e.synthesize path d exec).start with
    | (.error error, j) => (e.execute path d exec).start = (.error error, j)
    | (.ok code, j) =>
      ∃ module, e.synthesizer.moduleReference path = .ok module ∧
        (e.execute path d exec).start =
          ((e.sandbox.run module code).start.1.mapError .execution,
            j ++ (e.sandbox.run module code).start.2) := by
  -- both check the request and name the module for themselves; they meet in `synthesizeModule`
  cases hbody : d.body with
  | none =>
      simp only [synthesize, Synthesizer.synthesize, Synthesizer.synthesizeWith, execute, hbody]
      rfl
  | some body =>
      cases hmodule : e.synthesizer.moduleReference path with
      | error g =>
          simp only [synthesize, Synthesizer.synthesize, Synthesizer.synthesizeWith, execute, hbody,
            hmodule]
          rfl
      | ok module =>
          have hsuite : e.synthesize path d exec =
              lift .ofSynthesis (e.synthesizer.synthesizeModule module d exec) := by
            simp only [synthesize, Synthesizer.synthesize, Synthesizer.synthesizeWith, hbody,
              hmodule]
            rfl
          have hexecute : e.execute path d exec =
              lift .ofSynthesis (e.synthesizer.synthesizeModule module d exec) >>= fun code =>
                lift .execution (e.sandbox.run module code) := by
            simp only [execute, hbody, hmodule]
            rfl
          have hrun : ∀ code, OnlyAdds (fun c => c.isRun = true)
              (lift .execution (e.sandbox.run module code)) := fun code =>
            lift_onlyAdds (e.sandbox.run_onlyAdds module code)
          rw [hexecute, hsuite, Run.start_bind _ hrun]
          rcases (lift .ofSynthesis (e.synthesizer.synthesizeModule module d exec)).start with
            ⟨error | code, j⟩
          · rfl
          · exact ⟨module, rfl, rfl⟩

/-- **An execution is a synthesis followed by a run in the sandbox**, in every process.  Where
synthesis fails, an execution ends with its error and has done what it did.  Where it gives a text,
an execution ends as the run of the text as the module does, with the calls and the reports of the
one behind those of the other.  Synthesis does not call the host.  An execution calls it at most
once, which is so exactly if synthesis gives a text that is a program, and ends as the host says.
The errors of both are told by where they come from, and those of the build are no module's being
named by the path, or the build service's. -/
theorem execute_refines (arguments : List String) :
    let suite := (e.synthesizer.synthesize path d (.ofProcess arguments)).start.1
    let synthesis := (e.synthesizeIn arguments path d none).start
    let execution := (e.executeIn arguments path d).start
    (match synthesis with
      | (.error error, j) => execution = (.error error, j)
      | (.ok code, j) =>
        ∃ module, e.synthesizer.moduleReference path = .ok module ∧
          execution = ((e.sandbox.run module code).start.1.mapError .execution,
            j ++ (e.sandbox.run module code).start.2)) ∧
    (∀ script, .run script ∉ synthesis.2.calls) ∧
    execution.2.calls.countP Call.isRun ≤ 1 ∧
    ((∃ script, .run script ∈ execution.2.calls) ↔
      ∃ code, synthesis.1 = .ok code ∧
        (Script.Program.parse? { dialect := .js, isModule := false } code).isSome) ∧
    (∀ script, .run script ∈ execution.2.calls →
      execution.1 = (e.sandbox.host.run script).result.mapError .execution) ∧
    EngineError.Classed suite (fun _ => False) synthesis.1 ∧
    EngineError.Classed suite
      (fun r => ∃ code module, suite = .ok code ∧ e.synthesizer.moduleReference path = .ok module ∧
        (e.sandbox.run module code).start.1 = .error r)
      execution.1 ∧
    ∀ b, suite = .error (.build b) →
      e.synthesizer.moduleReference path = .error (.build b) ∨ e.synthesizer.build.Fails b := by
  have hrefines := e.start_execute path d (.ofProcess arguments)
  have hstart := e.start_synthesize path d (.ofProcess arguments)
  have horigin := fun b => e.synthesizer.fails_of_build d (.ofProcess arguments) path (b := b)
  have hsilent : ∀ c ∈ (e.synthesizer.synthesize path d (.ofProcess arguments)).start.2.calls,
      c.isRun = false :=
    (e.synthesizer.synthesizeWith_onlyAdds d (.ofProcess arguments) path .templates).calls
  intro suite synthesis execution
  rcases hrun : (e.synthesizer.synthesize path d (.ofProcess arguments)).start with ⟨g | code, j⟩
  all_goals
    rw [hrun] at hstart hsilent
    rw [hstart] at hrefines
    have hnone : ∀ script, .run script ∉ j.calls := fun script hmem =>
      Bool.noConfusion (hsilent _ hmem)
    have hcount : j.calls.countP Call.isRun = 0 :=
      List.countP_eq_zero.mpr fun c hc => by simp [hsilent c hc]
  · -- synthesis fails
    have hsuite : suite = .error g := congrArg Prod.fst hrun
    have hsynthesis : synthesis = (.error (.ofSynthesis g), j) := hstart
    have hexecution : execution = (.error (.ofSynthesis g), j) := hrefines
    rw [hsuite, hsynthesis, hexecution]
    refine ⟨rfl, hnone, by rw [hcount]; exact Nat.zero_le 1, ⟨?_, ?_⟩, ?_,
      .of_error g fun _ => id, .of_error g ?_, ?_⟩
    · rintro ⟨script, hmem⟩
      exact absurd hmem (hnone script)
    · rintro ⟨code, hcode, -⟩
      cases hcode
    · intro script hmem
      exact absurd hmem (hnone script)
    · rintro r ⟨code, module, hcode, -⟩
      cases hcode
    · intro b hb
      exact horigin b (hsuite.trans hb)
  · -- synthesis gives a text
    have hsuite : suite = .ok code := congrArg Prod.fst hrun
    have hsynthesis : synthesis = (.ok code, j) := hstart
    obtain ⟨module, hmodule, hexecution⟩ : ∃ module,
        e.synthesizer.moduleReference path = .ok module ∧
          execution = ((e.sandbox.run module code).start.1.mapError .execution,
            j ++ (e.sandbox.run module code).start.2) := hrefines
    -- the calls of an execution on the host are those of the sandbox
    have hmem : ∀ script, .run script ∈ (j ++ (e.sandbox.run module code).start.2).calls ↔
        e.sandbox.prepare module code = .ok script := by
      intro script
      rw [Journal.calls_append, List.mem_append, e.sandbox.mem_calls_run_iff]
      exact or_iff_right (hnone script)
    rw [hsuite, hsynthesis, hexecution]
    refine ⟨⟨module, hmodule, rfl⟩, hnone, ?_, ?_, ?_, ?_, ?_, fun b hb => by cases hb⟩
    · rw [Journal.calls_append, List.countP_append, hcount, Nat.zero_add]
      exact e.sandbox.countP_calls_run module code
    · rw [exists_congr hmem, e.sandbox.exists_prepare_iff]
      exact ⟨fun h => ⟨code, rfl, h⟩, fun ⟨code', hcode, h⟩ => Except.ok.inj hcode ▸ h⟩
    · intro script h
      rw [e.sandbox.start_run_of_ok module code ((hmem script).mp h)]
    · exact .of_ok code (.ok code) fun r => iff_of_false id fun h => by cases h
    · refine .of_ok code _ fun r => ⟨?_, fun h => ⟨code, module, rfl, hmodule, h⟩⟩
      rintro ⟨code', module', hcode, hmodule', h⟩
      rw [hmodule] at hmodule'
      cases hcode
      cases hmodule'
      exact h

end Engine

end StorySuite
