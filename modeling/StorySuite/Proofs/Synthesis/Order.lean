import StorySuite.Proofs.Synthesis.Steps
import StorySuite.Proofs.Template.Renders
import StorySuite.Synthesis.Basic

/-!
# Proofs — Synthesis — the order of a run

What a run of synthesis calls, and in which order, is written down as one list of steps
(`Synthesizer.agenda`): the exports are looked up and filtered; the module's data is asked for; for
each chosen export its data and its title; the module is compiled and its default export looked at;
the caller's predicate decides on each entry of the plan; the finished text is normalized and
transformed.  What a request leaves out is no step.

**The whole run** (`synthesize_journal`): a run makes the calls of its agenda up to the first step
that fails, in order and nothing else; its error is that step's, and a report of the finished suite
stands at the end of a run of which no step fails, and only there: by itself no step of an agenda
reports at the level of that report (`agenda_isQuiet`).
-/

namespace StorySuite

open Run (Follows)

/-! ### Reports -/

/-- A build service reports the event in one of its answers. -/
inductive BuildService.Reports (build : BuildService) (event : Event) : Prop where
  | analyze {path : Path} (h : event ∈ (build.analyzeExports path).events)
  | compile {path : Path} {dialect : Dialect}
      (h : event ∈ (build.compileModule path dialect).events)
  | normalize {text : String} {path : Path} {dialect : Dialect}
      (h : event ∈ (build.normalize text path dialect).events)
  | inspect {path : Path} {namespaces : List String}
      (h : event ∈ (build.inspectDefault path namespaces).events)

/-- At the level at which a finished suite is reported, the step reports only what a build service
reports. -/
def Step.IsQuiet (build : BuildService) (step : Step) : Prop :=
  ∀ event ∈ step.events, event.level = .info → build.Reports event

namespace Step.IsQuiet

variable {build : BuildService}

theorem of_silent {step : Step} (h : step.events = []) : step.IsQuiet build := by
  intro event hevent
  rw [h] at hevent
  cases hevent

theorem report {event : Event} (h : event.level ≠ .info) : (Step.report event).IsQuiet build := by
  intro event' hevent hlevel
  rw [List.mem_singleton.mp hevent] at hlevel
  exact absurd hlevel h

theorem service {α : Type} {c : Call} {answer : Report BuildError α}
    (h : ∀ event ∈ answer.events, build.Reports event) : (Step.service c answer).IsQuiet build :=
  fun event hevent _ => h event hevent

end Step.IsQuiet

/-! ### The plan -/

namespace Plan

/-- The exports that a request chooses; none where the filter fails. -/
def chosen (d : Descriptor) (exports : List ExportName) (path : Path) : List ExportName :=
  match d.filter with
  | none => defaultSelection exports
  | some (.ofExports select) => select exports
  | some (.ofModule select) => Step.valueOf [] (select exports path)

/-- The error of a choice that the module does not export. -/
def unknown? (exports selected : List ExportName) (path : Path) : Option SynthesisError :=
  (selected.find? (!exports.contains ·)).map (.unknownExport · path)

/-- The filter is asked, and its choice is compared with the exports. -/
def filterSteps (d : Descriptor) (exports : List ExportName) (path : Path) : List Step :=
  match d.filter with
  | none => []
  | some (.ofExports select) =>
    [.ask (.filter exports none), .check (unknown? exports (select exports) path)]
  | some (.ofModule select) =>
    [.askFallible (.filter exports (some path)) .exportFilter (select exports path),
      .check (unknown? exports (chosen d exports path) path)]

/-- The data of the module is asked for, if there is one to ask. -/
def moduleDataSteps : DataSource → List Step
  | .perModule data => [.askFallible .moduleData .dataSupplier data]
  | _ => []

/-- The data of an export is asked for, if there is one to ask. -/
def exportDataSteps (source : DataSource) (story : ExportName) : List Step :=
  match source with
  | .perExport f => [.askFallible (.exportData story) .dataSupplier (f story)]
  | _ => []

/-- The title of an export is asked for, if there is one to ask. -/
def titleSteps (rule : TitleRule) (story : ExportName) : List Step :=
  match rule with
  | .computed _ => [.ask (.title story)]
  | _ => []

/-- The title that a rule gives. -/
def titleText (rule : TitleRule) (story : ExportName) : String :=
  match rule with
  | .exportName => story.text
  | .literal title => title
  | .computed f => f story

/-- The data that a source supplies for an export; none where it fails. -/
def suppliedTo (source : DataSource) (story : ExportName) : DataMap :=
  match source with
  | .none => []
  | .fixed data => data
  | .perModule data => Step.valueOf [] data
  | .perExport f => Step.valueOf [] (f story)

/-- The entry of an export. -/
def entryOf (module : ModuleReference) (d : Descriptor) (story : ExportName) : PlanEntry :=
  { story
    title := titleText d.title story
    data := mergeData story module.realPath.text (suppliedTo d.data story) }

/-- The steps of making a plan. -/
def steps (exports : List ExportName) (module : ModuleReference) (d : Descriptor) : List Step :=
  let selected := chosen d exports module.realPath
  filterSteps d exports module.realPath ++
    .report (.exportsSelected module.realPath selected.length) ::
      (moduleDataSteps d.data ++
        selected.flatMap fun story => exportDataSteps d.data story ++ titleSteps d.title story)

/-- The entries of a plan. -/
def entries (exports : List ExportName) (module : ModuleReference) (d : Descriptor) :
    List PlanEntry :=
  (chosen d exports module.realPath).map (entryOf module d)

theorem titleFor_follows (rule : TitleRule) (story : ExportName) :
    Follows (titleFor rule story) (titleSteps rule story) (titleText rule story) := by
  cases rule with
  | exportName => exact .pure _
  | literal title => exact .pure _
  | computed f => exact (Follows.call _).bind_pure fun _ => f story

/-- A choice is compared with the exports. -/
theorem check_follows (exports selected : List ExportName) (path : Path) :
    Follows
      (match selected.find? (!exports.contains ·) with
        | some unknown => throw (.unknownExport unknown path)
        | none => pure selected : Run SynthesisError (List ExportName))
      [.check (unknown? exports selected path)] selected := by
  simp only [unknown?]
  cases selected.find? (!exports.contains ·) with
  | some unknown => exact .throw _ _
  | none => exact .check_none _

theorem selectExports_follows (exports : List ExportName) (module : ModuleReference)
    (d : Descriptor) :
    Follows (selectExports exports module d) (filterSteps d exports module.realPath)
      (chosen d exports module.realPath) := by
  cases hd : d.filter with
  | none =>
      simp only [selectExports, filterSteps, chosen, hd]
      exact .pure _
  | some filter =>
      cases filter with
      | ofExports select =>
          simp only [selectExports, filterSteps, chosen, hd, applyFilter]
          have hask := (Follows.call (.filter exports none)).bind_pure fun _ => select exports
          exact hask.bind fun _ => check_follows exports _ module.realPath
      | ofModule select =>
          simp only [selectExports, filterSteps, chosen, hd, applyFilter]
          have hask := Follows.askFallible (.filter exports (some module.realPath)) .exportFilter
            (select exports module.realPath) []
          exact hask.bind fun _ => check_follows exports _ module.realPath

/-- The data that all tests share; none where each export has its own. -/
def sharedWith : DataSource → Option DataMap
  | .none => some []
  | .fixed data => some data
  | .perModule data => some (Step.valueOf [] data)
  | .perExport _ => none

theorem sharedData_follows (source : DataSource) :
    Follows (sharedData source) (moduleDataSteps source) (sharedWith source) := by
  cases source with
  | none => exact .pure _
  | fixed data => exact .pure _
  | perExport f => exact .pure _
  | perModule data =>
      have hask := Follows.askFallible .moduleData .dataSupplier data []
      have h := hask.bind_pure some
      rwa [bind_assoc] at h

theorem suppliedData_follows (source : DataSource) (story : ExportName) :
    Follows (suppliedData source (sharedWith source) story) (exportDataSteps source story)
      (suppliedTo source story) := by
  cases source with
  | none => exact .pure _
  | fixed data => exact .pure _
  | perModule data => exact .pure _
  | perExport f => exact .askFallible (.exportData story) .dataSupplier (f story) []

theorem entryFor_follows (module : ModuleReference) (d : Descriptor) (story : ExportName) :
    Follows (entryFor module d (sharedWith d.data) story)
      (exportDataSteps d.data story ++ titleSteps d.title story) (entryOf module d story) :=
  (suppliedData_follows d.data story).bind fun _ =>
    (titleFor_follows d.title story).bind_pure _

/-- **Making a plan** follows the plan's steps. -/
theorem resolve_follows (exports : List ExportName) (module : ModuleReference) (d : Descriptor) :
    Follows (resolve exports module d) (steps exports module d) (entries exports module d) :=
  (selectExports_follows exports module d).bind fun _ =>
    (Follows.event _).bind fun _ =>
      (sharedData_follows d.data).bind fun _ =>
        Follows.mapM fun story _ => entryFor_follows module d story

theorem filterSteps_silent (d : Descriptor) (exports : List ExportName) (path : Path) :
    ∀ step ∈ filterSteps d exports path, step.events = [] := by
  unfold filterSteps
  split
  · exact List.forall_mem_nil _
  · exact List.forall_mem_cons.mpr ⟨rfl, List.forall_mem_singleton.mpr rfl⟩
  · exact List.forall_mem_cons.mpr ⟨rfl, List.forall_mem_singleton.mpr rfl⟩

theorem moduleDataSteps_silent (source : DataSource) :
    ∀ step ∈ moduleDataSteps source, step.events = [] := by
  unfold moduleDataSteps
  split
  · exact List.forall_mem_singleton.mpr rfl
  · exact List.forall_mem_nil _

theorem exportDataSteps_silent (source : DataSource) (story : ExportName) :
    ∀ step ∈ exportDataSteps source story, step.events = [] := by
  unfold exportDataSteps
  split
  · exact List.forall_mem_singleton.mpr rfl
  · exact List.forall_mem_nil _

theorem titleSteps_silent (rule : TitleRule) (story : ExportName) :
    ∀ step ∈ titleSteps rule story, step.events = [] := by
  unfold titleSteps
  split
  · exact List.forall_mem_singleton.mpr rfl
  · exact List.forall_mem_nil _

/-- Making a plan reports nothing at the level of a finished suite. -/
theorem steps_isQuiet {build : BuildService} (exports : List ExportName) (module : ModuleReference)
    (d : Descriptor) : ∀ step ∈ steps exports module d, step.IsQuiet build := by
  simp only [steps, List.forall_mem_append, List.forall_mem_cons, List.forall_mem_flatMap]
  refine ⟨fun step h => .of_silent (filterSteps_silent _ _ _ step h), .report nofun,
    fun step h => .of_silent (moduleDataSteps_silent _ step h), fun story _ => ⟨?_, ?_⟩⟩
  · exact fun step h => .of_silent (exportDataSteps_silent _ story step h)
  · exact fun step h => .of_silent (titleSteps_silent _ story step h)

end Plan

/-! ### The tests and the suite -/

namespace Item

/-- The caller's predicate is asked about an entry, if there is one to ask. -/
def activationSteps (inputs : ItemInputs) (entry : PlanEntry) : List Step :=
  match inputs.activation with
  | none => []
  | some _ => [.ask (.activation (activationContext inputs entry) inputs.arguments)]

theorem activationSteps_silent (inputs : ItemInputs) (entry : PlanEntry) :
    ∀ step ∈ activationSteps inputs entry, step.events = [] := by
  unfold activationSteps
  split
  · exact List.forall_mem_nil _
  · exact List.forall_mem_singleton.mpr rfl

/-- Asking the caller's predicate does not fail. -/
theorem activationSteps_ok (inputs : ItemInputs) (entry : PlanEntry) :
    Step.error? (activationSteps inputs entry) = none := by
  unfold activationSteps
  split <;> rfl

/-- The caller's predicate holds of an entry. -/
def isAlone (inputs : ItemInputs) (entry : PlanEntry) : Bool :=
  match inputs.activation with
  | none => false
  | some decides => decides (activationContext inputs entry) inputs.arguments

/-- The text of the test of an entry. -/
def textOf (inputs : ItemInputs) (entry : PlanEntry) : String :=
  (Template.renderPieces? (bindings inputs entry (isAlone inputs entry)) Template.testItem).getD ""

theorem runsAlone_follows (inputs : ItemInputs) (entry : PlanEntry) :
    Follows (runsAlone inputs entry) (activationSteps inputs entry) (isAlone inputs entry) := by
  cases h : inputs.activation with
  | none =>
      simp only [runsAlone, activationSteps, isAlone, h]
      exact .pure _
  | some decides =>
      simp only [runsAlone, activationSteps, isAlone, h]
      exact (Follows.call _).bind_pure fun _ => decides (activationContext inputs entry) _

/-- A template that is supplied is rendered without a step. -/
theorem render_follows {b : Template.Bindings} (name : TemplateName)
    (h : Template.Supplied b name.pieces) :
    Follows (Run.ofReport id (Renderer.templates.render name b)) []
      ((Template.renderPieces? b name.pieces).getD "") := fun j => by
  obtain ⟨text, htext⟩ := Option.isSome_iff_exists.mp
    (Template.renderPieces?_isSome b name.pieces h)
  have hevents : j.addEvents [] = j := by simp [Journal.addEvents]
  have hrun : (Run.ofReport id (Renderer.templates.render name b)).runFrom j =
      (.ok text, j.addEvents []) := by
    simp only [Renderer.templates, htext]
    rfl
  rw [hrun, hevents, htext, Journal.after_nil]
  rfl

/-- **Making a test** asks the predicate, and does nothing else. -/
theorem synthesize_follows (inputs : ItemInputs) (entry : PlanEntry) :
    Follows (synthesize inputs entry) (activationSteps inputs entry) (textOf inputs entry) := by
  have h : Follows (synthesize inputs entry) (activationSteps inputs entry ++ [])
      (textOf inputs entry) :=
    (runsAlone_follows inputs entry).bind fun _ =>
      render_follows .testItem (Template.supplied_testItem inputs entry _)
  rwa [List.append_nil] at h

end Item

namespace Suite

/-- The settings are looked at; a key that is no path of names is an error. -/
def settingsStep (options : SuiteOptions) : Step :=
  .check ((invalidKey? options.settings).map .invalidSetting)

/-- The text of a suite. -/
def textOf (module : ModuleReference) (stories : List ExportName) (items : List String)
    (shape : Option DefaultShape) (options : SuiteOptions) : String :=
  (Template.renderPieces?
    (bindings module stories items shape options (options.settings.map settingBinding))
    Template.suite).getD ""

theorem assemble_follows (module : ModuleReference) (stories : List ExportName)
    (items : List String) (shape : Option DefaultShape) (options : SuiteOptions) :
    Follows (assemble module stories items shape options) [settingsStep options]
      (textOf module stories items shape options) := by
  unfold assemble assembleWith settingsStep
  cases hkey : invalidKey? options.settings with
  | some key =>
      rw [settingBindings_of_invalid hkey]
      exact .throw_bind (.invalidSetting key) _ _
  | none =>
      rw [settingBindings_of_valid hkey]
      exact (Follows.check_none _).bind fun _ =>
        Item.render_follows .suite
          (supplied_suite module stories items shape options options.settings)

end Suite

/-! ### The whole run -/

namespace Synthesizer

variable (s : Synthesizer) (module : ModuleReference) (d : Descriptor) (body : TestBody)
  (exec : ExecContext)

/-- The exports of a module; none where they cannot be looked up. -/
def exportsOf : List ExportName :=
  Step.valueOf [] (s.build.analyzeExports module.realPath).result

/-- What is known of a module's default export; nothing where it cannot be looked at. -/
def shapeOf : Option DefaultShape :=
  (s.build.inspectDefault module.realPath s.options.hookNamespaces).result.toOption

/-- The default export is looked at.  This fails never: that it cannot be looked at is a report. -/
def inspectStep : Step :=
  let answer := s.build.inspectDefault module.realPath s.options.hookNamespaces
  { call := some (.inspect module.realPath s.options.hookNamespaces)
    events := answer.events ++
      (Step.errorOf answer.result).toList.map (.inspectionFailed module.realPath) }

/-- What all tests of a run share. -/
def inputsOf : ItemInputs :=
  { module, body, activation := d.activation, arguments := exec.arguments,
    metadata := exec.metadata }

/-- How the suite of a run is put together. -/
def suiteOptions : SuiteOptions :=
  { hookNamespaces := s.options.hookNamespaces
    titleFromDefault := s.options.titleFromDefault
    settings := exec.settings }

/-- The entries of a run's plan. -/
def entriesOf : List PlanEntry :=
  Plan.entries (s.exportsOf module) module d

/-- The suite of a run. -/
def suiteOf : String :=
  let entries := s.entriesOf module d
  Suite.textOf module (entries.map (·.story))
    (entries.map (Item.textOf (inputsOf module d body exec))) (s.shapeOf module)
    (s.suiteOptions exec)

/-- The compiled module; an empty one where it cannot be compiled. -/
def compiledOf : CompiledModule :=
  Step.valueOf { text := "", exports := [] }
    (s.build.compileModule module.realPath module.dialect).result

/-- What normalizing the compiled module and its suite gives. -/
def normalized : Report BuildError String :=
  s.build.normalize
    (Synthesis.joinTexts (s.compiledOf module).text (s.suiteOf module d body exec))
    module.virtualPath module.dialect

/-- The finished text is handed to the caller, if the caller wants to change it. -/
def transformSteps : Option (String → String) → List Step
  | none => []
  | some _ => [.ask .transform]

theorem transformSteps_silent (transform : Option (String → String)) :
    ∀ step ∈ transformSteps transform, step.events = [] := by
  unfold transformSteps
  split
  · exact List.forall_mem_nil _
  · exact List.forall_mem_singleton.mpr rfl

/-- The text that a run ends with. -/
def codeOf : String :=
  d.transform.getD id (Step.valueOf "" (s.normalized module d body exec).result)

/-- The steps of a run for a module that is already named. -/
def moduleAgenda : List Step :=
  let path := module.realPath
  .service (.analyze path) (s.build.analyzeExports path) ::
    .report (.catalogResolved path (s.exportsOf module).length) ::
    (Plan.steps (s.exportsOf module) module d ++
      .service (.compile path module.dialect) (s.build.compileModule path module.dialect) ::
      s.inspectStep module ::
      ((s.entriesOf module d).flatMap (Item.activationSteps (inputsOf module d body exec)) ++
        Suite.settingsStep (s.suiteOptions exec) ::
        .service (.normalize module.virtualPath module.dialect) (s.normalized module d body exec) ::
        transformSteps d.transform))

/-- The steps of a run. -/
def agenda (path : Path) : List Step :=
  match d.body, s.moduleReference path with
  | none, _ => [.check (some .missingTestBody)]
  | some _, .error e => [.check (some e)]
  | some body, .ok module => s.moduleAgenda module d body exec

/-- The report of a finished suite. -/
def finished : Event :=
  .suiteSynthesized module.realPath (s.entriesOf module d).length body.style

theorem inspect_follows :
    Follows (s.inspect module) [s.inspectStep module] (s.shapeOf module) := fun j => by
  have hafter : j.after [s.inspectStep module] =
      { calls := j.calls ++ [.inspect module.realPath s.options.hookNamespaces]
        events := j.events ++ (s.inspectStep module).events } := by
    simp [Journal.after, Step.calls, Step.reports, Step.made, inspectStep]
  rw [hafter]
  simp only [inspect, inspectStep, shapeOf]
  obtain ⟨events, result⟩ := s.build.inspectDefault module.realPath s.options.hookNamespaces
  cases result with
  | ok shape => simp only [Step.errorOf, Option.toList_none, List.map_nil, List.append_nil]; rfl
  | error e => rw [← List.append_assoc]; rfl

/-- The caller's change of the finished text. -/
theorem applyTransform_follows (code : String) :
    Follows (Synthesis.applyTransform d.transform code) (transformSteps d.transform)
      (d.transform.getD id code) := by
  cases d.transform with
  | none => exact .pure code
  | some f => exact (Follows.call .transform).bind_pure fun _ => f code

theorem recombine_follows (compiled suite : String) :
    let answer := s.build.normalize (Synthesis.joinTexts compiled suite) module.virtualPath
      module.dialect
    Follows (Synthesis.recombine s.build module compiled suite d.transform)
      (.service (.normalize module.virtualPath module.dialect) answer ::
        transformSteps d.transform)
      (d.transform.getD id (Step.valueOf "" answer.result)) := by
  intro answer
  have hservice := Follows.service (.normalize module.virtualPath module.dialect) answer ""
  have h := hservice.bind fun _ => applyTransform_follows d (Step.valueOf "" answer.result)
  rwa [bind_assoc] at h

/-- **A run for a module that is already named** follows its agenda, and reports the finished suite
at the end. -/
theorem synthesizeModule_follows (hbody : d.body = some body) :
    Follows (s.synthesizeModule module d exec)
      (s.moduleAgenda module d body exec ++ [.report (s.finished module d body)])
      (s.codeOf module d body exec) := by
  have hsteps : s.moduleAgenda module d body exec ++ [.report (s.finished module d body)] =
      [.service (.analyze module.realPath) (s.build.analyzeExports module.realPath)] ++
      ([.report (.catalogResolved module.realPath (s.exportsOf module).length)] ++
      (Plan.steps (s.exportsOf module) module d ++
      ([.service (.compile module.realPath module.dialect)
        (s.build.compileModule module.realPath module.dialect)] ++
      ([s.inspectStep module] ++
      ((s.entriesOf module d).flatMap (Item.activationSteps (inputsOf module d body exec)) ++
      ([Suite.settingsStep (s.suiteOptions exec)] ++
      ((.service (.normalize module.virtualPath module.dialect) (s.normalized module d body exec) ::
        transformSteps d.transform) ++
      [.report (s.finished module d body)]))))))) := by
    simp [moduleAgenda]
  rw [hsteps]
  simp only [synthesizeModule, synthesizeModuleWith, hbody]
  -- the exports
  rw [← bind_assoc]
  refine (Follows.service _ _ []).bind fun _ => ?_
  refine (Follows.event _).bind fun _ => ?_
  -- the plan
  refine (Plan.resolve_follows (s.exportsOf module) module d).bind fun _ => ?_
  -- the compiled module, and its default export
  rw [← bind_assoc]
  refine (Follows.service _ _ { text := "", exports := [] }).bind fun _ => ?_
  refine (s.inspect_follows module).bind fun _ => ?_
  -- the tests and the suite
  refine (Follows.mapM fun entry _ => Item.synthesize_follows _ entry).bind fun _ => ?_
  refine (Suite.assemble_follows module _ _ _ _).bind fun _ => ?_
  -- the finished text
  refine (s.recombine_follows module d _ _).bind fun _ => ?_
  rw [List.length_map]
  exact (Follows.event (s.finished module d body)).bind_pure fun _ => s.codeOf module d body exec

/-- A request without a function that makes tests ends at once. -/
theorem synthesize_follows_of_none (path : Path) (code : String) (hbody : d.body = none) :
    Follows (s.synthesize path d exec) [.check (some .missingTestBody)] code := by
  simp only [synthesize, synthesizeWith, hbody, Option.isNone_none, if_true]
  exact .throw_bind .missingTestBody _ code

/-- A path that names no module ends the run at once. -/
theorem synthesize_follows_of_error (path : Path) (code : String) {e : SynthesisError}
    (hbody : d.body = some body) (he : s.moduleReference path = .error e) :
    Follows (s.synthesize path d exec) [.check (some e)] code := by
  simp only [synthesize, synthesizeWith, hbody, Option.isNone_some, he]
  exact .throw_bind e _ code

/-- A run for a path follows the agenda of the module at the path. -/
theorem synthesize_follows_of_ok (path : Path) (hbody : d.body = some body)
    (hmodule : s.moduleReference path = .ok module) :
    Follows (s.synthesize path d exec)
      (s.moduleAgenda module d body exec ++ [.report (s.finished module d body)])
      (s.codeOf module d body exec) := by
  simp only [synthesize, synthesizeWith, hbody, Option.isNone_some, hmodule]
  exact s.synthesizeModule_follows module d body exec hbody

/-! ### Reports at the level of a finished suite -/

/-- Every step that reports at the level of a finished suite passes a report of a build service
on. -/
theorem moduleAgenda_isQuiet :
    ∀ step ∈ s.moduleAgenda module d body exec, step.IsQuiet s.build := by
  have hactivation : ∀ step ∈ (s.entriesOf module d).flatMap
      (Item.activationSteps (inputsOf module d body exec)), step.IsQuiet s.build := by
    intro step hstep
    obtain ⟨entry, -, hstep⟩ := List.mem_flatMap.mp hstep
    exact .of_silent (Item.activationSteps_silent _ entry step hstep)
  have hinspect : (s.inspectStep module).IsQuiet s.build := by
    intro event hevent hlevel
    rcases List.mem_append.mp hevent with h | h
    · exact .inspect h
    · -- the step's own report, of a failure, is a warning
      obtain ⟨e, -, rfl⟩ := List.mem_map.mp h
      cases hlevel
  simp only [moduleAgenda, List.forall_mem_cons, List.forall_mem_append]
  exact ⟨.service fun _ h => .analyze h, .report nofun, Plan.steps_isQuiet _ module d,
    .service fun _ h => .compile h, hinspect, hactivation, .of_silent rfl,
    .service fun _ h => .normalize h,
    fun step h => .of_silent (transformSteps_silent d.transform step h)⟩

theorem agenda_isQuiet (path : Path) : ∀ step ∈ s.agenda d exec path, step.IsQuiet s.build := by
  unfold agenda
  split
  case h_1 => exact List.forall_mem_singleton.mpr (.of_silent rfl)
  case h_2 => exact List.forall_mem_singleton.mpr (.of_silent rfl)
  case h_3 body module _ _ => exact s.moduleAgenda_isQuiet module d body exec

/-! ### The journal of a run -/

/-- A run that is broken off by a step leaves behind what is done up to that step. -/
theorem start_of_error {r : Run SynthesisError String} {steps : List Step} (more : List Step)
    {a : String} {e : SynthesisError} (h : Follows r (steps ++ more) a)
    (he : Step.error? steps = some e) :
    r.start = (.error e, { calls := Step.calls steps, events := Step.reports steps }) := by
  have herror : Step.error? (steps ++ more) = some e := by rw [Step.error?_append, he]; rfl
  have hstart : r.start = (Run.outcome (steps ++ more) a, Journal.after {} (steps ++ more)) := h {}
  rw [hstart, Run.outcome_of_error a herror, Journal.after_append_of_error _ he]
  simp [Journal.after]

/-- A run of which no step fails leaves behind what all its steps do. -/
theorem start_of_ok {r : Run SynthesisError String} {steps : List Step} {e : Event} {a : String}
    (h : Follows r (steps ++ [.report e]) a) (hok : Step.error? steps = none) :
    r.start = (.ok a,
      { calls := steps.filterMap Step.call, events := steps.flatMap Step.events ++ [e] }) := by
  have hall : Step.error? (steps ++ [.report e]) = none := by
    rw [Step.error?_append_of_ok _ hok]; rfl
  have hstart : r.start = (Run.outcome (steps ++ [.report e]) a,
    Journal.after {} (steps ++ [.report e])) := h {}
  rw [hstart, Run.outcome_of_ok a hall]
  simp only [Journal.after, Step.calls, Step.reports, Step.made_of_ok hall]
  simp [Step.report]

/-- **The whole run.**  Let `steps` be the agenda of a run.  If a step fails, the run gives the
error of the first that does, has made the calls of the agenda up to that step, that one included,
and does not report a finished suite.  If no step fails, the module is named and the request has a
function that makes tests; the run gives the finished text, has made every call of the agenda, in
order, and reports the finished suite at its end.  No step of the agenda reports at the level of
that report, unless a build service does. -/
theorem synthesize_journal (path : Path) :
    (match Step.error? (s.agenda d exec path) with
      | some e =>
        (s.synthesize path d exec).start =
          (.error e,
            { calls := Step.calls (s.agenda d exec path)
              events := Step.reports (s.agenda d exec path) })
      | none =>
        ∃ module body, s.moduleReference path = .ok module ∧ d.body = some body ∧
          (s.synthesize path d exec).start =
            (.ok (s.codeOf module d body exec),
              { calls := (s.agenda d exec path).filterMap Step.call
                events := (s.agenda d exec path).flatMap Step.events ++
                  [s.finished module d body] })) ∧
    ∀ step ∈ s.agenda d exec path, step.IsQuiet s.build := by
  refine ⟨?_, s.agenda_isQuiet d exec path⟩
  cases hbody : d.body with
  | none =>
      have hagenda : s.agenda d exec path = [.check (some .missingTestBody)] := by
        simp only [agenda, hbody]
      rw [hagenda]
      have h := s.synthesize_follows_of_none d exec path "" hbody
      exact start_of_error [] h rfl
  | some body =>
      cases hmodule : s.moduleReference path with
      | error e =>
          have hagenda : s.agenda d exec path = [.check (some e)] := by
            simp only [agenda, hbody, hmodule]
          rw [hagenda]
          have h := s.synthesize_follows_of_error d body exec path "" hbody hmodule
          exact start_of_error [] h rfl
      | ok module =>
          have hagenda : s.agenda d exec path = s.moduleAgenda module d body exec := by
            simp only [agenda, hbody, hmodule]
          rw [hagenda]
          have h := s.synthesize_follows_of_ok module d body exec path hbody hmodule
          cases herror : Step.error? (s.moduleAgenda module d body exec) with
          | some e => exact start_of_error _ h herror
          | none => exact ⟨module, body, rfl, rfl, start_of_ok h herror⟩

end Synthesizer

end StorySuite
