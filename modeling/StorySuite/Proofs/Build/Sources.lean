import StorySuite.Build.Modules
import StorySuite.Proofs.Path.Twice
import StorySuite.Proofs.Source.FileTable

/-!
# Proofs — Build — what a build service reads of a table

A build service over a table of files locates the path of a module and asks the table for what it has
located, and the table locates it once more.  So the service works on what was stored last at the
place to which locating twice leads.  This is the place of the module itself if the root of the table
is absolute, or goes out as often as in (`Path.locationFrom_locate_iff`); below another root a module
that is stored under a relative path is not found under this path.

* `analyzeExports_eq`, `inspectDefault_eq`, `compileModule_eq`: a report is that of the source, or of
  the work on it.
* `readSource_eq`: the source of a module, or why there is none.
* `Reads`: what a service has to report of a module for which some bytes are stored.
* `reads_twiceLocated`: where the bytes are looked for, under every root.
* **`reads_iff`**: when they are looked for where they were stored.
* `not_forall_reads`: a module below a root with a name.
-/

namespace StorySuite

/-- The error is about what a source says. -/
def BuildError.IsOfText : BuildError → Prop
  | .parse .. | .transform .. | .bundle .. => True
  | .read .. | .unsupportedDialect _ => False

namespace ModuleBuild

open FileTable (lastAt?)

/-! ### Work on a source -/

/-- What is reported of a source: why there is none, or the work on it. -/
def reporting {α β : Type} (source : Except BuildError α) (work : α → Report BuildError β) :
    Report BuildError β :=
  match source with
  | .error e => { result := .error e }
  | .ok a => work a

/-- What is reported of the exports of a module. -/
def analysis (p : Path) (source : String × Dialect) : Report BuildError (List ExportName) :=
  match parse p { dialect := source.2, isModule := true } source.1 with
  | .error e => { result := .error e }
  | .ok program =>
    { events := (exportsOf program).1 ++ [.exportsAnalyzed p (exportsOf program).2.length]
      result := .ok (exportsOf program).2 }

/-- What is reported of the default export of a module. -/
def inspection (namespaces : List String) (p : Path) (source : String × Dialect) :
    Report BuildError DefaultShape :=
  { result := (parse p { dialect := source.2, isModule := true } source.1).map
      (·.defaultShape namespaces) }

/-- The script of a module at the place `whole`. -/
def scriptOf (whole p : Path) (dialect : Dialect) (text : String) (program : Script.Program) :
    Except BuildError String := do
  let plain ← plain p dialect program
  ensureRunsAtOnce p dialect text
  match plain.bundle? whole with
  | some script => .ok script
  | none => .error (.bundle p none)

/-- What is reported of a module that is compiled; the dialect of its path does not count. -/
def compilation (whole p : Path) (dialect : Dialect) (source : String × Dialect) :
    Report BuildError CompiledModule :=
  match parse p { dialect, isModule := true } source.1 with
  | .error e => { result := .error e }
  | .ok program =>
    match scriptOf whole p dialect source.1 program with
    | .error e => { events := (exportsOf program).1, result := .error e }
    | .ok text =>
      { events := (exportsOf program).1 ++ [.moduleCompiled p (exportsOf program).2.length]
        result := .ok { text, exports := (exportsOf program).2 } }

section Work

variable {files : Files} {p : Path}

theorem analyzeExports_eq : analyzeExports files p = reporting (readSource files p) (analysis p) := by
  unfold analyzeExports readModule
  cases readSource files p with
  | error e => rfl
  | ok source =>
      show (match parse p _ _ with | .error e => _ | .ok program => _) = analysis p source
      unfold analysis
      cases parse p { dialect := source.2, isModule := true } source.1 <;> rfl

theorem inspectDefault_eq (namespaces : List String) :
    inspectDefault files p namespaces =
      reporting (readSource files p) (inspection namespaces p) := by
  unfold inspectDefault readModule
  cases readSource files p <;> rfl

theorem compileModule_eq (dialect : Dialect) :
    compileModule files p dialect =
      reporting (readSource files p) (compilation (files.absolute p) p dialect) := by
  unfold compileModule
  cases readSource files p with
  | error e => rfl
  | ok source =>
      unfold reporting compilation
      cases hparse : parse p { dialect, isModule := true } source.1 with
      | error e => simp [hparse, bind, Except.bind]
      | ok program =>
          simp only [hparse, bind, Except.bind, pure, Except.pure]
          rfl

theorem isOfText_of_parse {goal : Script.Goal} {text : String} {e : BuildError}
    (h : parse p goal text = .error e) : e.IsOfText := by
  unfold parse at h
  split at h
  · cases h
  · cases h
    trivial

theorem isOfText_of_analysis {source : String × Dialect} {e : BuildError}
    (h : (analysis p source).result = .error e) : e.IsOfText := by
  unfold analysis at h
  split at h
  · rename_i hparse
    cases h
    exact isOfText_of_parse hparse
  · cases h

theorem isOfText_of_inspection {namespaces : List String} {source : String × Dialect}
    {e : BuildError} (h : (inspection namespaces p source).result = .error e) : e.IsOfText := by
  unfold inspection at h
  cases hparse : parse p { dialect := source.2, isModule := true } source.1 with
  | error e' =>
      rw [hparse] at h
      cases h
      exact isOfText_of_parse hparse
  | ok program =>
      rw [hparse] at h
      cases h

theorem isOfText_of_scriptOf {whole : Path} {dialect : Dialect} {text : String}
    {program : Script.Program} {e : BuildError}
    (h : scriptOf whole p dialect text program = .error e) : e.IsOfText := by
  unfold scriptOf plain ensureRunsAtOnce at h
  cases hplain : program.plain? dialect with
  | none =>
      rw [hplain] at h
      cases h
      trivial
  | some lowered =>
      rw [hplain] at h
      cases hparse : parse p { dialect, isModule := true, barsAwait := true } text with
      | error e' =>
          rw [hparse] at h
          cases h
          trivial
      | ok _ =>
          rw [hparse] at h
          cases hbundle : lowered.bundle? whole with
          | none =>
              simp only [bind, Except.bind, Except.map, Except.mapError, hbundle] at h
              cases h
              trivial
          | some script =>
              simp only [bind, Except.bind, Except.map, Except.mapError, hbundle] at h
              cases h

theorem isOfText_of_compilation {whole : Path} {dialect : Dialect} {source : String × Dialect}
    {e : BuildError} (h : (compilation whole p dialect source).result = .error e) :
    e.IsOfText := by
  unfold compilation at h
  split at h
  · rename_i hparse
    cases h
    exact isOfText_of_parse hparse
  · split at h
    · rename_i hscript
      cases h
      exact isOfText_of_scriptOf hscript
    · cases h

end Work

/-! ### Where the source is -/

/-- What can be asked of a table, and of a build service over it. -/
inductive Request where
  | table (r : FileTable.Request)
  | analyze (p : Path)
  | inspect (p : Path) (namespaces : List String)
  | compile (p : Path) (dialect : Dialect)

/-- The table after a request; what is asked of the build service leaves it. -/
def serve (t : FileTable) : Request → FileTable
  | .table r => t.serve r
  | .analyze _ | .inspect .. | .compile .. => t

/-- The table after some requests. -/
def serveAll (t : FileTable) (requests : List Request) : FileTable :=
  requests.foldl serve t

/-- What a request stores at a place, the path being taken from `root`. -/
def Request.stored (root : Path) : Request → List (Location × List UInt8)
  | .table r => r.stored root
  | .analyze _ | .inspect .. | .compile .. => []

/-- What requests store at places, one after the other. -/
def stored (root : Path) (requests : List Request) : List (Location × List UInt8) :=
  requests.flatMap (Request.stored root)

/-- The source of `p`, where `bytes?` is what is stored for it: text in the dialect of the path. -/
def sourceOf (root p : Path) (bytes? : Option (List UInt8)) :
    Except BuildError (String × Dialect) :=
  match Dialect.ofPath? p with
  | none => .error (.unsupportedDialect p)
  | some dialect =>
    match bytes? with
    | none => .error (.read p (.notFound (root.locate p)))
    | some bytes =>
      match Text.Utf8.decode? bytes with
      | none => .error (.read p (.notUtf8 (root.locate p)))
      | some text => .ok (text, dialect)

/-- What is reported of `p` is that its path names no dialect, or else that nothing is stored for it,
or else that this is no text, or else it is the work on this text.  No other path is blamed, and work
blames none of these. -/
structure IsReadFrom {β : Type} (root p : Path) (bytes? : Option (List UInt8))
    (work : String × Dialect → Report BuildError β) (report : Report BuildError β) : Prop where
  unsupported (q : Path) : report.result = .error (.unsupportedDialect q) ↔
    q = p ∧ Dialect.ofPath? p = none
  notFound (q whole : Path) : report.result = .error (.read q (.notFound whole)) ↔
    q = p ∧ whole = root.locate p ∧ Dialect.ofPath? p ≠ none ∧ bytes? = none
  notUtf8 (q whole : Path) : report.result = .error (.read q (.notUtf8 whole)) ↔
    q = p ∧ whole = root.locate p ∧ Dialect.ofPath? p ≠ none ∧
      ∃ bytes, bytes? = some bytes ∧ Text.Utf8.decode? bytes = none
  works {dialect : Dialect} {bytes : List UInt8} {text : String} :
    Dialect.ofPath? p = some dialect → bytes? = some bytes →
      Text.Utf8.decode? bytes = some text → report = work (text, dialect)

/-- A build service over a table reports of `p` what is read from `bytes?`, whatever it is asked. -/
structure Reads (t : FileTable) (root p : Path) (bytes? : Option (List UInt8)) : Prop where
  analyze : IsReadFrom root p bytes? (analysis p)
    ((BuildService.ofFiles t.files).analyzeExports p)
  inspect (namespaces : List String) : IsReadFrom root p bytes? (inspection namespaces p)
    ((BuildService.ofFiles t.files).inspectDefault p namespaces)
  compile (dialect : Dialect) : IsReadFrom root p bytes? (compilation (root.locate p) p dialect)
    ((BuildService.ofFiles t.files).compileModule p dialect)

section Reading

variable {root p : Path} {stores : List (Location × List UInt8)} {t : FileTable}

/-- Work that is reported of a source is read from it, if its own errors are about the text. -/
theorem isReadFrom_reporting {β : Type} {work : String × Dialect → Report BuildError β}
    (hwork : ∀ source e, (work source).result = .error e → e.IsOfText)
    (bytes? : Option (List UInt8)) :
    IsReadFrom root p bytes? work (reporting (sourceOf root p bytes?) work) := by
  unfold sourceOf
  cases hdialect : Dialect.ofPath? p with
  | none => constructor <;> simp [reporting, hdialect, eq_comm]
  | some dialect =>
      cases bytes? with
      | none => constructor <;> simp [reporting, hdialect, eq_comm]
      | some bytes =>
          dsimp only
          cases htext : Text.Utf8.decode? bytes with
          | none =>
              constructor
              · simp [reporting, hdialect]
              · simp [reporting, hdialect]
              · simp [reporting, hdialect, htext, eq_comm]
              · intro _ _ _ _ hbytes htext'
                rw [← Option.some.inj hbytes, htext] at htext'
                cases htext'
          | some text =>
              -- a text was read, so what is told of the dialect or the file is not told by the work
              have hunsupported : ∀ q, (work (text, dialect)).result ≠
                  .error (.unsupportedDialect q) := fun q => hwork _ _
              have hread : ∀ q cause, (work (text, dialect)).result ≠ .error (.read q cause) :=
                fun q cause => hwork _ _
              constructor
              · simp [reporting, hdialect, hunsupported]
              · simp [reporting, hread]
              · simp [reporting, hread, htext]
              · intro _ _ _ hdialect' hbytes htext'
                rw [← Option.some.inj hbytes, htext] at htext'
                rw [← Option.some.inj htext', ← Option.some.inj (hdialect.symm.trans hdialect')]
                rfl

/-- **The source of a module** is read at the place where the located path leads. -/
theorem readSource_eq (h : FileTable.Shows root stores t) (p : Path) :
    readSource t.files p =
      sourceOf root p (lastAt? stores (root.locationFrom (root.locate p))) := by
  have habsolute : t.files.absolute p = root.locate p := congrArg (·.locate p) h.root_eq
  have hholds : t.files.holds (root.locate p) = _ := h.holds_eq (root.locate p)
  have hread : t.files.read (root.locate p) = _ := h.read_eq (root.locate p)
  unfold readSource sourceOf
  cases Dialect.ofPath? p with
  | none => rfl
  | some dialect =>
      simp only [habsolute, hholds, Files.readText, hread, FileTable.readAt]
      cases lastAt? stores (root.locationFrom (root.locate p)) with
      | none => rfl
      | some bytes =>
          simp only [Option.isSome_some, Bool.not_true, Bool.false_eq_true, ↓reduceIte]
          cases htext : Text.Utf8.decode? bytes <;>
            simp [bind, Except.bind, htext, Except.mapError, Except.map, throw, throwThe,
              MonadExceptOf.throw, pure, Except.pure]

/-- The table after a request shows what was stored by then. -/
theorem shows_serve (h : FileTable.Shows root stores t) (r : Request) :
    FileTable.Shows root (stores ++ r.stored root) (serve t r) := by
  cases r with
  | table r => exact h.serve r
  | analyze p | inspect p namespaces | compile p dialect =>
      rw [Request.stored, List.append_nil]
      exact h

/-- The table shows what was stored, whatever else was asked. -/
theorem shows_serveAll : ∀ (requests : List Request) {stores : List (Location × List UInt8)}
    {t : FileTable}, FileTable.Shows root stores t →
      FileTable.Shows root (stores ++ stored root requests) (serveAll t requests)
  | [], stores, t, h => by
      rw [stored, List.flatMap_nil, List.append_nil]
      exact h
  | r :: rest, stores, t, h => by
      have hrest := shows_serveAll rest (shows_serve h r)
      rwa [List.append_assoc] at hrest

theorem reads_of_readSource {bytes? : Option (List UInt8)} (hroot : t.root = root)
    (h : readSource t.files p = sourceOf root p bytes?) : Reads t root p bytes? := by
  have habsolute : t.files.absolute p = root.locate p := congrArg (·.locate p) hroot
  constructor
  · show IsReadFrom _ _ _ _ (analyzeExports t.files p)
    rw [analyzeExports_eq, h]
    exact isReadFrom_reporting (fun _ _ => isOfText_of_analysis) bytes?
  · intro namespaces
    show IsReadFrom _ _ _ _ (inspectDefault t.files p namespaces)
    rw [inspectDefault_eq, h]
    exact isReadFrom_reporting (fun _ _ => isOfText_of_inspection) bytes?
  · intro dialect
    show IsReadFrom _ _ _ _ (compileModule t.files p dialect)
    rw [compileModule_eq, h, habsolute]
    exact isReadFrom_reporting (fun _ _ => isOfText_of_compilation) bytes?

end Reading

/-! ### Where a module is looked for -/

section Sessions

variable (root p : Path)

/-- After whatever was asked, a module is read from the place where the located path leads. -/
theorem reads_twiceLocated (requests : List Request) :
    Reads (serveAll (.empty root) requests) root p
      (lastAt? (stored root requests) (root.locationFrom (root.locate p))) := by
  have hshows := shows_serveAll requests (FileTable.Shows.start root)
  rw [List.nil_append] at hshows
  exact reads_of_readSource hshows.root_eq (readSource_eq hshows p)

/-- A module that was just stored is not found if the located path leads elsewhere. -/
theorem not_reads_stored (hdialect : Dialect.ofPath? p ≠ none)
    (hne : root.locationFrom (root.locate p) ≠ root.locationFrom p) (bytes : List UInt8) :
    ¬ Reads (serveAll (.empty root) [.table (.add p bytes)]) root p
      (lastAt? (stored root [.table (.add p bytes)]) (root.locationFrom p)) := by
  intro hreads
  have hstored : stored root [.table (.add p bytes)] = [] ++ [(root.locationFrom p, bytes)] := rfl
  have htwice := reads_twiceLocated root p [.table (.add p bytes)]
  rw [hstored, FileTable.lastAt?_concat] at hreads htwice
  rw [if_neg hne] at htwice
  rw [if_pos rfl] at hreads
  have hresult := (htwice.analyze.notFound p (root.locate p)).mpr ⟨rfl, rfl, hdialect, rfl⟩
  obtain ⟨-, -, -, hnone⟩ := (hreads.analyze.notFound p (root.locate p)).mp hresult
  cases hnone

/-- **What a build service reads of a table.**  Under every root, whatever was asked of the table and
of the service before, the service reports of a module what is read from the bytes that were stored
last at the place where the located path leads: that the path names no dialect, that there are no
bytes, that they are no text, or what comes of this text, in this order.  They are the bytes that were
stored last under the path itself exactly if it names no dialect, or is absolute, or the root goes out
as often as in. -/
theorem reads_iff :
    (∀ requests, Reads (serveAll (.empty root) requests) root p
      (lastAt? (stored root requests) (root.locationFrom (root.locate p)))) ∧
    ((∀ requests, Reads (serveAll (.empty root) requests) root p
        (lastAt? (stored root requests) (root.locationFrom p))) ↔
      Dialect.ofPath? p = none ∨ p.isAbsolute = true ∨ root.location.IsBalanced) := by
  refine ⟨reads_twiceLocated root p, fun hall => ?_, fun h requests => ?_⟩
  · by_contra hne
    rw [not_or, ← Path.locationFrom_locate_iff] at hne
    exact not_reads_stored root p hne.1 hne.2 [] (hall _)
  · rcases h with hdialect | hplace
    · have hshows := shows_serveAll requests (FileTable.Shows.start root)
      refine reads_of_readSource hshows.root_eq ?_
      rw [readSource_eq hshows p]
      simp only [sourceOf, hdialect]
    · rw [← Path.locationFrom_locate_iff.mpr hplace]
      exact reads_twiceLocated root p requests

end Sessions

/-- Not every module is read from where it was stored: below `proj`, the module `a.js` is looked for
at `proj/proj/a.js`. -/
theorem not_forall_reads :
    ¬ ∀ (root p : Path) (requests : List Request), Reads (serveAll (.empty root) requests) root p
      (lastAt? (stored root requests) (root.locationFrom p)) := by
  intro hall
  refine not_reads_stored ⟨"proj"⟩ ⟨"a.js"⟩ (by decide +kernel) (by decide)
    "export const A = 1;".toUTF8.toList (hall _ _ _)

end ModuleBuild
end StorySuite
