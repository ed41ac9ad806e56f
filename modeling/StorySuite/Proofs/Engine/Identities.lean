import StorySuite.Build.Modules
import StorySuite.Engine
import StorySuite.Proofs.Path.Absolute

/-!
# Proofs — Engine — the file names that a host is given

A host is given the names of files: the module's, its directory, the name of the generated unit, the
directory of packages, and whatever the names that the module requires stand for.  A host that looks
a name up takes one that is not absolute for the name of a package.

All of them are absolute if the module's file and the directory of packages are
(`Sandbox.isAbsolute_prepare_iff`).  An engine takes both from its working directory, which is the
configured one where there is one, as it is written there: nothing makes it absolute, and no
configuration is refused for it.

* **`Engine.isAbsolute_script_iff`**: when the names in a script of an engine are absolute.
* `Engine.not_forall_scripts_absolute`: they are not always, where `.` is configured.
-/

namespace StorySuite

namespace ModuleReference

variable {path cwd : Path} {m : ModuleReference}

theorem new_paths (h : ModuleReference.new path cwd = .ok m) :
    m.realPath = cwd.locate path ∧ m.virtualPath = virtualSibling (cwd.locate path) := by
  unfold ModuleReference.new at h
  dsimp only at h
  split at h
  · cases h
  · cases h
    exact ⟨rfl, rfl⟩

theorem exists_new {dialect : Dialect} (h : Dialect.ofPath? (cwd.locate path) = some dialect) :
    ∃ m, ModuleReference.new path cwd = .ok m ∧ m.realPath = cwd.locate path := by
  unfold ModuleReference.new
  dsimp only
  rw [h]
  exact ⟨_, rfl, rfl⟩

/-- The unit of an absolute file is absolute. -/
theorem isAbsolute_virtualSibling {real : Path} (h : real.isAbsolute = true) :
    (virtualSibling real).isAbsolute = true :=
  Path.isAbsolute_withFileName h _

/-- The directory of an absolute file is absolute. -/
theorem isAbsolute_directory (h : m.realPath.isAbsolute = true) :
    m.directory.isAbsolute = true := by
  unfold directory
  cases hparent : m.realPath.parent? with
  | none => rfl
  | some parent => exact Path.isAbsolute_of_parent? h hparent

end ModuleReference

/-! ### The names in a script -/

/-- What a required name stands for is the name of a platform's module, unchanged, or absolute. -/
def ModuleRequest.IsIdentity (name request : String) : Prop :=
  (isBuiltin name = true ∧ request = name) ∨ (Path.mk request).isAbsolute = true

theorem Resolver.isIdentity_resolve (r : Resolver) (hmodule : r.moduleDir.isAbsolute = true)
    (hshared : r.sharedDir.isAbsolute = true) (name : String) :
    ModuleRequest.IsIdentity name (r.resolve name).text := by
  unfold Resolver.resolve
  dsimp only
  split
  · rename_i habsolute
    exact .inr habsolute
  · split
    · right
      show ((r.moduleDir.join ⟨name⟩).clean).isAbsolute = true
      rw [Path.isAbsolute_clean, Path.isAbsolute_join, hmodule, Bool.or_true]
    · split
      · rename_i hbuiltin
        exact .inl ⟨hbuiltin, rfl⟩
      · right
        show (r.sharedDir.join ⟨name⟩).isAbsolute = true
        rw [Path.isAbsolute_join, hshared, Bool.or_true]

/-- All file names in a script are absolute. -/
structure SandboxScript.IsAbsolute (script : SandboxScript) : Prop where
  filename : script.filename.isAbsolute = true
  realPath : script.realPath.isAbsolute = true
  dirname : script.dirname.isAbsolute = true
  sharedDir : script.sharedDir.isAbsolute = true
  requires : ∀ entry ∈ script.requires, ModuleRequest.IsIdentity entry.1 entry.2

namespace Sandbox

variable {s : Sandbox} {module : ModuleReference} {code : String} {script : SandboxScript}

theorem prepare_eq_ok (h : s.prepare module code = .ok script) :
    ∃ names, Script.requires? code = some names ∧ script =
      { filename := module.virtualPath
        realPath := module.realPath
        dirname := module.directory
        source := SandboxScript.wrap code
        sharedDir := s.sharedDir
        requires := s.requests module names
        suiteStubs := s.suiteStubs } := by
  unfold prepare at h
  split at h
  · cases h
  · rename_i names hnames
    cases h
    exact ⟨names, hnames, rfl⟩

theorem exists_prepare_of_requires (s : Sandbox) (module : ModuleReference) {names : List String}
    (h : Script.requires? code = some names) :
    ∃ script, s.prepare module code = .ok script ∧ script.realPath = module.realPath := by
  unfold prepare
  rw [h]
  exact ⟨_, rfl, rfl⟩

/-- The names in a script are absolute if the module's file and the directory of packages are. -/
theorem isAbsolute_prepare_iff (h : s.prepare module code = .ok script)
    (hvirtual : module.virtualPath = ModuleReference.virtualSibling module.realPath) :
    script.IsAbsolute ↔ module.realPath.isAbsolute = true ∧ s.sharedDir.isAbsolute = true := by
  obtain ⟨names, -, rfl⟩ := prepare_eq_ok h
  constructor
  · intro habsolute
    exact ⟨habsolute.realPath, habsolute.sharedDir⟩
  · rintro ⟨hreal, hshared⟩
    have hdirectory := ModuleReference.isAbsolute_directory hreal
    have hunit : module.virtualPath.isAbsolute = true :=
      hvirtual.symm ▸ ModuleReference.isAbsolute_virtualSibling hreal
    refine ⟨hunit, hreal, hdirectory, hshared, fun entry hentry => ?_⟩
    obtain ⟨name, -, rfl⟩ := List.mem_map.mp hentry
    exact (s.resolverFor module).isIdentity_resolve hdirectory hshared name

end Sandbox

/-! ### The names that an engine gives out -/

namespace Engine

variable {config : Config} {build : BuildService} {host : ScriptHost} {workingDir : Path}
  {e : Engine} {path : Path} {module : ModuleReference} {code : String} {script : SandboxScript}

/-- The engine that a configuration without a fault makes. -/
def configured (config : Config) (build : BuildService) (host : ScriptHost) (cwd : Path) : Engine :=
  { config
    cwd
    synthesizer :=
      { build
        options :=
          { cwd
            hookNamespaces := config.hookNamespaces
            titleFromDefault := config.titleFromDefault } }
    sandbox :=
      { host
        sharedDir := config.dependencyDirFrom cwd
        suiteStubs := config.suiteStubs } }

theorem new_eq_ok_iff :
    (Engine.new config build host workingDir).start.1 = .ok e ↔
      config.fault? = none ∧ e = configured config build host (config.cwd.getD workingDir) := by
  unfold Engine.new
  cases config.fault? with
  | none =>
      constructor
      · intro h
        exact ⟨rfl, (Except.ok.inj h).symm⟩
      · rintro ⟨-, rfl⟩
        rfl
  | some fault =>
      constructor
      · intro h
        cases h
      · rintro ⟨hfault, -⟩
        cases hfault

/-- The directory of packages is absolute if it is given so, or the working directory is absolute. -/
theorem isAbsolute_dependencyDirFrom_iff {cwd : Path} :
    (config.dependencyDirFrom cwd).isAbsolute = true ↔
      cwd.isAbsolute = true ∨ ∃ dir, config.dependencyDir = some dir ∧ dir.isAbsolute = true := by
  unfold Config.dependencyDirFrom
  rw [Path.isAbsolute_join, Bool.or_eq_true, or_comm]
  refine or_congr_right ?_
  cases config.dependencyDir with
  | none => simp; decide
  | some dir => simp

/-- **The names in a script of an engine** are absolute if the engine works in an absolute
directory, or is asked for an absolute file and has an absolute directory of packages. -/
theorem isAbsolute_script_iff
    (hengine : (Engine.new config build host workingDir).start.1 = .ok e)
    (hmodule : e.synthesizer.moduleReference path = .ok module)
    (hscript : e.sandbox.prepare module code = .ok script) :
    script.IsAbsolute ↔
      (config.cwd.getD workingDir).isAbsolute = true ∨
        (path.isAbsolute = true ∧
          ∃ dir, config.dependencyDir = some dir ∧ dir.isAbsolute = true) := by
  obtain ⟨-, rfl⟩ := new_eq_ok_iff.mp hengine
  -- the engine names the module as `ModuleReference.new` does, an error told as a synthesis'
  have hnew : ModuleReference.new path (config.cwd.getD workingDir) = .ok module := by
    have hmapped : (ModuleReference.new path (config.cwd.getD workingDir)).mapError
        SynthesisError.build = .ok module := hmodule
    cases h : ModuleReference.new path (config.cwd.getD workingDir) with
    | error b =>
        rw [h] at hmapped
        cases hmapped
    | ok named =>
        rw [h] at hmapped
        cases hmapped
        rfl
  obtain ⟨hreal, hvirtual⟩ := ModuleReference.new_paths hnew
  have hshared : (configured config build host (config.cwd.getD workingDir)).sandbox.sharedDir =
      config.dependencyDirFrom (config.cwd.getD workingDir) := rfl
  rw [Sandbox.isAbsolute_prepare_iff hscript (hreal ▸ hvirtual), hshared,
    isAbsolute_dependencyDirFrom_iff, hreal, Path.isAbsolute_locate, Bool.or_eq_true,
    or_comm (a := path.isAbsolute = true), ← or_and_left]

/-! ### An engine that works in a relative directory -/

/-- A build service and a host with nothing in them. -/
def emptyBuild : BuildService :=
  .ofFiles { workingDir := ⟨"/"⟩, holds := fun _ => false, read := fun p => .error (.notFound p) }

def absentHost : ScriptHost :=
  .process ⟨"node"⟩ fun _ => none

/-- The configuration of a directory. -/
def configOf (cwd : String) : Config :=
  { cwd := some ⟨cwd⟩ }

/-- `require("./b")`, a text that requires a module next to its own. -/
def neighbourCode : String := "require(\"./b\")"

theorem fault?_configOf (cwd : String) : (configOf cwd).fault? = none := by
  have hnames : (configOf cwd).hookNamespaces.find? (!BindingName.isIdentifier ·) = none := by
    show ["parameters", "test"].find? (!BindingName.isIdentifier ·) = none
    decide +kernel
  unfold Config.fault?
  rw [hnames]
  rfl

/-- The engine of a directory makes a script of the text. -/
theorem exists_script (cwd : String)
    (hdialect : Dialect.ofPath? (Path.locate ⟨cwd⟩ ⟨"src/a.js"⟩) = some .js) :
    ∃ e module script,
      (Engine.new (configOf cwd) emptyBuild absentHost ⟨"/"⟩).start.1 = .ok e ∧
      e.synthesizer.moduleReference ⟨"src/a.js"⟩ = .ok module ∧
      e.sandbox.prepare module neighbourCode = .ok script ∧
      script.realPath = Path.locate ⟨cwd⟩ ⟨"src/a.js"⟩ := by
  have hrequires : Script.requires? neighbourCode = some ["./b"] := by decide +kernel
  obtain ⟨module, hmodule, hreal⟩ := ModuleReference.exists_new hdialect
  obtain ⟨script, hscript, hpath⟩ := Sandbox.exists_prepare_of_requires
    (configured (configOf cwd) emptyBuild absentHost ⟨cwd⟩).sandbox module hrequires
  refine ⟨_, module, script, new_eq_ok_iff.mpr ⟨fault?_configOf cwd, rfl⟩, ?_, hscript,
    hpath.trans hreal⟩
  show (ModuleReference.new ⟨"src/a.js"⟩ ⟨cwd⟩).mapError _ = _
  rw [hmodule]
  rfl

/-- In `/project` all names are absolute. -/
theorem projectScript_isAbsolute :
    ∃ e module script,
      (Engine.new (configOf "/project") emptyBuild absentHost ⟨"/"⟩).start.1 = .ok e ∧
      e.synthesizer.moduleReference ⟨"src/a.js"⟩ = .ok module ∧
      e.sandbox.prepare module neighbourCode = .ok script ∧ script.IsAbsolute := by
  obtain ⟨e, module, script, hengine, hmodule, hscript, -⟩ :=
    exists_script "/project" (by decide +kernel)
  exact ⟨e, module, script, hengine, hmodule, hscript,
    (isAbsolute_script_iff hengine hmodule hscript).mpr (.inl rfl)⟩

/-- **Not every script** that an engine makes has absolute names only: where `.` is configured, the
directory in which the engine is started, the module's file has a relative one. -/
theorem not_forall_scripts_absolute :
    ¬ ∀ (config : Config) (build : BuildService) (host : ScriptHost) (workingDir : Path) (e : Engine)
        (path : Path) (module : ModuleReference) (code : String) (script : SandboxScript),
      config.fault? = none → workingDir.isAbsolute = true →
      (Engine.new config build host workingDir).start.1 = .ok e →
      e.synthesizer.moduleReference path = .ok module →
      e.sandbox.prepare module code = .ok script → script.IsAbsolute := by
  intro h
  obtain ⟨e, module, script, hengine, hmodule, hscript, hreal⟩ :=
    exists_script "." (by decide +kernel)
  have habsolute := (h _ _ _ _ e _ module _ script (fault?_configOf ".") rfl hengine hmodule
    hscript).realPath
  rw [hreal, Path.isAbsolute_locate] at habsolute
  cases habsolute

end Engine

end StorySuite
