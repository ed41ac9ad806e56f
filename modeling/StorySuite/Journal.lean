import StorySuite.Build.Error
import StorySuite.Descriptor
import StorySuite.LogLevel
import StorySuite.Sandbox.Script

/-!
# Journal — what a run did

A run calls services and the caller's functions and reports on its way.  Both are kept in order,
also when the run fails, so that what was done before a failure can be told.
-/

namespace StorySuite

/-- A call to a service or to a function of the caller's. -/
inductive Call where
  | analyze (module : Path)
  | compile (module : Path) (dialect : Dialect)
  | inspect (module : Path) (namespaces : List String)
  | normalize (unit : Path) (dialect : Dialect)
  /-- A filter was asked; only one that looks at the module is given its path. -/
  | filter (exports : List ExportName) (module : Option Path)
  | moduleData
  | exportData (story : ExportName)
  | title (story : ExportName)
  | activation (context : ActivationContext) (arguments : List String)
  | transform
  /-- A script was handed to the host that runs it. -/
  | run (script : SandboxScript)

namespace Call

/-- The call is one to a build service. -/
def isBuild : Call → Bool
  | .analyze _ | .compile .. | .inspect .. | .normalize .. => true
  | _ => false

end Call

/-- A report on the way. -/
inductive Event where
  /-- A re-export of all names was passed over, its names not being known. -/
  | starSkipped (source : String)
  | exportsAnalyzed (module : Path) (count : Nat)
  | moduleCompiled (module : Path) (exports : Nat)
  | catalogResolved (module : Path) (exports : Nat)
  | exportsSelected (module : Path) (selected : Nat)
  | inspectionFailed (module : Path) (error : BuildError)
  | suiteSynthesized (module : Path) (items : Nat) (style : Suspension)
  | sandboxRunning (module : Path) (requires : List String)
  | hostSpawning (binary : Path) (module : Path) (requires : Nat)
  | engineReady (cwd : Path)

namespace Event

/-- The level at which the event is told. -/
def level : Event → LogLevel
  | .inspectionFailed .. => .warn
  | .suiteSynthesized .. => .info
  | _ => .debug

/-- What the event says, with its fields. -/
def text : Event → String
  | .starSkipped source =>
    "Skipping star re-export, names are not statically known source=" ++ source
  | .exportsAnalyzed m n => "Analyzed module exports module=" ++ m.text ++ " count=" ++ toString n
  | .moduleCompiled m n =>
    "Compiled module to CommonJS module=" ++ m.text ++ " exports=" ++ toString n
  | .catalogResolved m n => "Resolved export catalog module=" ++ m.text ++ " exports=" ++ toString n
  | .exportsSelected m n =>
    "Selected exports for test plan module=" ++ m.text ++ " selected=" ++ toString n
  | .inspectionFailed m e =>
    "Default export inspection failed, suite hooks are not wired module=" ++ m.text ++
      " error=" ++ e.message
  | .suiteSynthesized m n style =>
    "Synthesized test suite module=" ++ m.text ++ " items=" ++ toString n ++ " style=" ++ style.name
  | .sandboxRunning m requires =>
    "Running module in sandbox module=" ++ m.text ++ " requires=" ++ Text.displayList requires
  | .hostSpawning binary m n =>
    "Spawning script host binary=" ++ binary.text ++ " module=" ++ m.text ++
      " requires=" ++ toString n
  | .engineReady cwd => "Storytest engine ready cwd=" ++ cwd.text

/-- The event as a line of a log. -/
def line (e : Event) : String :=
  (e.level.name.map Char.toUpper) ++ " " ++ e.text

end Event

/-- The calls and the events of a run, in order. -/
structure Journal where
  calls : List Call := []
  events : List Event := []

namespace Journal

/-- The journal with a call at its end. -/
def addCall (j : Journal) (c : Call) : Journal :=
  { j with calls := j.calls ++ [c] }

/-- The journal with events at its end. -/
def addEvents (j : Journal) (es : List Event) : Journal :=
  { j with events := j.events ++ es }

end Journal

/-- What a service answers, with the events it reported. -/
structure Report (ε α : Type) where
  events : List Event := []
  result : Except ε α

/-- A run that ends with a result or an error and keeps a journal of both. -/
abbrev Run (ε α : Type) := ExceptT ε (StateM Journal) α

namespace Run

variable {ε ε' α : Type}

/-- Notes a call. -/
def call (c : Call) : Run ε Unit :=
  modify (·.addCall c)

/-- Notes an event. -/
def event (e : Event) : Run ε Unit :=
  modify (·.addEvents [e])

/-- Takes a service's answer over, its events and its result. -/
def ofReport (wrap : ε' → ε) (r : Report ε' α) : Run ε α := do
  modify (·.addEvents r.events)
  match r.result with
  | .ok a => pure a
  | .error e => throw (wrap e)

/-- Takes an error of another kind over. -/
def ofExcept (wrap : ε' → ε) : Except ε' α → Run ε α
  | .ok a => pure a
  | .error e => throw (wrap e)

/-- Runs from an empty journal. -/
def start (r : Run ε α) : Except ε α × Journal :=
  StateT.run (ExceptT.run r) {}

end Run

end StorySuite
