import StorySuite.Proofs.Json.Fields
import StorySuite.Proofs.Synthesis.Order

/-!
# Proofs — Synthesis — what a plan is

A request makes a choice among the exports of a module (`Plan.selection`): its filter's, or the
default one.  A plan is made of the choice and of nothing else.  It is there as soon as there is a
choice, every name in it is an export's, and the calls for data are answered (`Plan.Answers`); it
lists the choice in its order, and every entry is the one of its export (`Plan.IsEntry`).

* `resolve_result`: the result of making a plan, the errors included, and which of them comes first.
* `mergeData_keys`, `get?_mergeData`: the data of an entry.
* **`resolve_spec`**: all of it.
-/

namespace StorySuite.Plan

/-! ### The choice -/

/-- The choice that a request makes among the exports of a module, or why its filter fails. -/
def selection (d : Descriptor) (exports : List ExportName) (path : Path) :
    Except String (List ExportName) :=
  match d.filter with
  | none => .ok (defaultSelection exports)
  | some (.ofExports select) => .ok (select exports)
  | some (.ofModule select) => select exports path

theorem mem_of_mem_defaultSelection {exports : List ExportName} {story : ExportName}
    (h : story ∈ defaultSelection exports) : story ∈ exports := by
  unfold defaultSelection at h
  split at h
  · exact h
  · exact List.mem_of_mem_filter h

theorem find?_not_contains_eq_none_iff {exports selected : List ExportName} :
    selected.find? (!exports.contains ·) = none ↔ ∀ story ∈ selected, story ∈ exports := by
  simp [List.find?_eq_none]

theorem chosen_of_selection {d : Descriptor} {exports selected : List ExportName} {path : Path}
    (h : selection d exports path = .ok selected) : chosen d exports path = selected := by
  cases hd : d.filter with
  | none =>
      simp only [selection, hd] at h
      simpa only [chosen, hd] using Except.ok.inj h
  | some filter =>
      cases filter with
      | ofExports select =>
          simp only [selection, hd] at h
          simpa only [chosen, hd] using Except.ok.inj h
      | ofModule select =>
          simp only [selection, hd] at h
          simp only [chosen, hd, h, Step.valueOf]

/-- What goes wrong with the choice: the filter fails, or the choice has a name in it that is no
export's.  The default choice has none. -/
theorem error?_filterSteps (d : Descriptor) (exports : List ExportName) (path : Path) :
    Step.error? (filterSteps d exports path) =
      match selection d exports path with
      | .error detail => some (.supplier .exportFilter detail)
      | .ok selected => unknown? exports selected path := by
  cases hd : d.filter with
  | none =>
      have hknown : (defaultSelection exports).find? (!exports.contains ·) = none :=
        find?_not_contains_eq_none_iff.mpr fun _ h => mem_of_mem_defaultSelection h
      simp only [filterSteps, selection, hd, unknown?, hknown]
      rfl
  | some filter =>
      cases filter with
      | ofExports select =>
          simp only [filterSteps, selection, hd]
          simp [Step.error?, Step.ask, Step.check]
      | ofModule select =>
          simp only [filterSteps, chosen, selection, hd]
          cases select exports path with
          | error detail => rfl
          | ok selected => simp [Step.error?, Step.askFallible, Step.errorOf, Step.valueOf, Step.check]

/-! ### The data -/

/-- What a source of data answers for an export. -/
def supply (source : DataSource) (story : ExportName) : Except String DataMap :=
  match source with
  | .none => .ok []
  | .fixed data => .ok data
  | .perModule data => data
  | .perExport f => f story

/-- The calls for data that a plan for the choice makes are all answered.  The data of the module is
asked for even where nothing is chosen. -/
def Answers (source : DataSource) (selected : List ExportName) : Prop :=
  match source with
  | .perModule data => ∃ supplied, data = .ok supplied
  | .perExport f => ∀ story ∈ selected, ∃ supplied, f story = .ok supplied
  | _ => True

/-- Why the call for the data of the module fails, if there is such a call. -/
def moduleFailure? : DataSource → Option String
  | .perModule data => Step.errorOf data
  | _ => none

/-- Why the call for the data of an export fails, if there is such a call. -/
def exportFailure? (source : DataSource) (story : ExportName) : Option String :=
  match source with
  | .perExport f => Step.errorOf (f story)
  | _ => none

/-- Why a call for data fails, of several the first. -/
def failure? (source : DataSource) (selected : List ExportName) : Option String :=
  (moduleFailure? source).or (selected.findSome? (exportFailure? source))

theorem errorOf_eq_none_iff {ε α : Type} {answer : Except ε α} :
    Step.errorOf answer = none ↔ ∃ a, answer = .ok a := by
  cases answer <;> simp [Step.errorOf]

theorem failure?_eq_none_iff {source : DataSource} {selected : List ExportName} :
    failure? source selected = none ↔ Answers source selected := by
  cases source <;>
    simp [failure?, moduleFailure?, exportFailure?, Answers, errorOf_eq_none_iff]

theorem error?_moduleDataSteps (source : DataSource) :
    Step.error? (moduleDataSteps source) =
      (moduleFailure? source).map (.supplier .dataSupplier) := by
  cases source with
  | perModule data => cases data <;> rfl
  | none | fixed data | perExport f => rfl

/-- What goes wrong with an export's data; to ask for its title never fails. -/
theorem error?_exportSteps (source : DataSource) (rule : TitleRule) (story : ExportName) :
    Step.error? (exportDataSteps source story ++ titleSteps rule story) =
      (exportFailure? source story).map (.supplier .dataSupplier) := by
  have htitle : Step.error? (titleSteps rule story) = none := by cases rule <;> rfl
  rw [Step.error?_append, htitle, Option.or_none]
  cases source with
  | perExport f =>
      simp only [exportDataSteps, exportFailure?]
      cases f story <;> rfl
  | none | fixed data | perModule data => rfl

/-- What goes wrong with the data. -/
theorem error?_dataSteps (source : DataSource) (rule : TitleRule) (selected : List ExportName) :
    Step.error? (moduleDataSteps source ++
        selected.flatMap fun story => exportDataSteps source story ++ titleSteps rule story) =
      (failure? source selected).map (.supplier .dataSupplier) := by
  rw [Step.error?_append, Step.error?_flatMap, error?_moduleDataSteps, failure?, Option.map_or,
    List.map_findSome?]
  simp only [error?_exportSteps, Function.comp_def]

/-! ### The result -/

/-- **Making a plan**: the filter fails, or a name is no export's, or data is refused, and the first
of these is the error; else the plan has an entry for each export chosen. -/
theorem resolve_result (exports : List ExportName) (module : ModuleReference) (d : Descriptor) :
    (resolve exports module d).start.1 =
      match selection d exports module.realPath with
      | .error detail => .error (.supplier .exportFilter detail)
      | .ok selected =>
        match selected.find? (!exports.contains ·) with
        | some unknown => .error (.unknownExport unknown module.realPath)
        | none =>
          match failure? d.data selected with
          | some detail => .error (.supplier .dataSupplier detail)
          | none => .ok (selected.map (entryOf module d)) := by
  have hrun : (resolve exports module d).start =
      (Run.outcome (steps exports module d) (entries exports module d), _) :=
    resolve_follows exports module d {}
  have herror : Step.error? (steps exports module d) =
      (Step.error? (filterSteps d exports module.realPath)).or
        ((failure? d.data (chosen d exports module.realPath)).map (.supplier .dataSupplier)) := by
    rw [← error?_dataSteps d.data d.title, ← Step.error?_append]
    simp [steps, Step.error?, Step.report]
  rw [hrun]
  -- the first step that fails counts, and the choice is made before data is asked for
  simp only [Run.outcome, herror, error?_filterSteps]
  cases hselection : selection d exports module.realPath with
  | error detail => rfl
  | ok selected =>
      simp only [entries, chosen_of_selection hselection, unknown?]
      cases selected.find? (!exports.contains ·) with
      | some unknown => rfl
      | none => cases failure? d.data selected <;> rfl

/-! ### The data of an entry -/

/-- The two keys of which every entry has data. -/
def fixedKeys : List String := ["exportName", "modulePath"]

/-- What an entry's data says of a key where nothing is supplied for it. -/
def fixedValue? (story : ExportName) (module : ModuleReference) (key : String) :
    Option Json.Value :=
  if key = "exportName" then some (.string story.text)
  else if key = "modulePath" then some (.string module.realPath.text)
  else none

/-- The entry is the one of the export, made with the data supplied for it. -/
structure IsEntry (module : ModuleReference) (d : Descriptor) (story : ExportName)
    (supplied : DataMap) (entry : PlanEntry) : Prop where
  story_eq : entry.story = story
  title_eq : entry.title = titleText d.title story
  nodup_keys : entry.data.keys.Nodup
  keys_eq : entry.data.keys = fixedKeys ++ supplied.keys.filter (· ∉ fixedKeys)
  get?_eq : ∀ key, entry.data.get? key = (supplied.get? key).or (fixedValue? story module key)

theorem nodup_mergeData_keys (story : ExportName) (modulePath : String) (supplied : DataMap) :
    (mergeData story modulePath supplied).keys.Nodup :=
  DataMap.nodup_keys_insertAll supplied (by simp [DataMap.keys])

theorem mergeData_keys (story : ExportName) (modulePath : String) {supplied : DataMap}
    (h : supplied.keys.Nodup) :
    (mergeData story modulePath supplied).keys =
      fixedKeys ++ supplied.keys.filter (· ∉ fixedKeys) :=
  DataMap.keys_insertAll _ h

theorem get?_mergeData (story : ExportName) (module : ModuleReference) {supplied : DataMap}
    (h : supplied.keys.Nodup) (key : String) :
    (mergeData story module.realPath.text supplied).get? key =
      (supplied.get? key).or (fixedValue? story module key) := by
  rw [mergeData, DataMap.get?_insertAll _ h, DataMap.get?_cons, DataMap.get?_cons, fixedValue?,
    DataMap.get?_nil]
  simp only [eq_comm]

theorem suppliedTo_of_supply {source : DataSource} {story : ExportName} {supplied : DataMap}
    (h : supply source story = .ok supplied) : suppliedTo source story = supplied := by
  cases source with
  | none => exact Except.ok.inj h
  | fixed data => exact Except.ok.inj h
  | perModule data =>
      have hdata : data = .ok supplied := h
      simp only [suppliedTo, hdata, Step.valueOf]
  | perExport f =>
      have hdata : f story = .ok supplied := h
      simp only [suppliedTo, hdata, Step.valueOf]

theorem isEntry_entryOf {module : ModuleReference} {d : Descriptor} {story : ExportName}
    {supplied : DataMap} (h : supply d.data story = .ok supplied) (hkeys : supplied.keys.Nodup) :
    IsEntry module d story supplied (entryOf module d story) where
  story_eq := rfl
  title_eq := rfl
  nodup_keys := nodup_mergeData_keys story module.realPath.text _
  keys_eq := by rw [entryOf, suppliedTo_of_supply h, mergeData_keys story _ hkeys]
  get?_eq key := by rw [entryOf, suppliedTo_of_supply h, get?_mergeData story module hkeys]

/-- What is asked for an export of an answered choice is supplied. -/
theorem supply_of_answers {source : DataSource} {selected : List ExportName}
    (h : Answers source selected) {story : ExportName} (hstory : story ∈ selected) :
    ∃ supplied, supply source story = .ok supplied := by
  cases source with
  | none => exact ⟨[], rfl⟩
  | fixed data => exact ⟨data, rfl⟩
  | perModule data => exact h
  | perExport f => exact h story hstory

/-! ### Plans -/

section Plans

variable {exports : List ExportName} {module : ModuleReference} {d : Descriptor}

theorem resolve_eq_ok_iff {plan : List PlanEntry} :
    (resolve exports module d).start.1 = .ok plan ↔
      ∃ selected, selection d exports module.realPath = .ok selected ∧
        (∀ story ∈ selected, story ∈ exports) ∧ Answers d.data selected ∧
        plan = selected.map (entryOf module d) := by
  rw [resolve_result]
  constructor
  · intro h
    split at h
    case h_1 => cases h
    case h_2 selected hselection =>
      split at h
      case h_1 => cases h
      case h_2 hknown =>
        split at h
        case h_1 => cases h
        case h_2 hanswers =>
          exact ⟨selected, hselection, find?_not_contains_eq_none_iff.mp hknown,
            failure?_eq_none_iff.mp hanswers, (Except.ok.inj h).symm⟩
  · rintro ⟨selected, hselection, hknown, hanswers, rfl⟩
    rw [hselection]
    simp only [find?_not_contains_eq_none_iff.mpr hknown, failure?_eq_none_iff.mpr hanswers]

/-- The entries of a plan are those of the exports chosen, one for each, in their order. -/
theorem forall₂_isEntry {selected : List ExportName}
    (hmaps : ∀ story supplied, supply d.data story = .ok supplied → supplied.keys.Nodup)
    (hanswers : Answers d.data selected) :
    List.Forall₂ (fun story entry => ∃ supplied, supply d.data story = .ok supplied ∧
      IsEntry module d story supplied entry) selected (selected.map (entryOf module d)) := by
  rw [List.forall₂_map_right_iff, List.forall₂_same]
  intro story hstory
  obtain ⟨supplied, hsupplied⟩ := supply_of_answers hanswers hstory
  exact ⟨supplied, hsupplied, isEntry_entryOf hsupplied (hmaps story supplied hsupplied)⟩

/-- The first name of a choice that is no export's is the error. -/
theorem resolve_of_unknown {before after : List ExportName} {unknown : ExportName}
    (hselection : selection d exports module.realPath = .ok (before ++ unknown :: after))
    (hbefore : ∀ story ∈ before, story ∈ exports) (hunknown : unknown ∉ exports) :
    (resolve exports module d).start.1 = .error (.unknownExport unknown module.realPath) := by
  have hfirst : (before ++ unknown :: after).find? (!exports.contains ·) = some unknown := by
    rw [List.find?_append, find?_not_contains_eq_none_iff.mpr hbefore]
    simp [hunknown]
  rw [resolve_result, hselection]
  simp only [hfirst]

/-- Two sources that answer alike, and of which neither refuses anything, give the same plans. -/
theorem resolve_congr_data {source source' : DataSource}
    (hanswers : ∀ selected, Answers source selected)
    (hanswers' : ∀ selected, Answers source' selected)
    (hsupply : ∀ story, suppliedTo source story = suppliedTo source' story) :
    (resolve exports module { d with data := source }).start.1 =
      (resolve exports module { d with data := source' }).start.1 := by
  have hentry : entryOf module { d with data := source } =
      entryOf module { d with data := source' } := by
    funext story
    simp only [entryOf, hsupply story]
  have hselection : selection { d with data := source } exports module.realPath =
      selection { d with data := source' } exports module.realPath := rfl
  simp only [resolve_result, hselection, hentry, failure?_eq_none_iff.mpr (hanswers _),
    failure?_eq_none_iff.mpr (hanswers' _)]

end Plans

/-- **What a plan is.**  There is one exactly when the filter, if there is one, succeeds, every name
that it gives is an export's, and every call for data is answered.  It has one entry for each export
chosen, in the order of the choice.  Where the choice names what is no export, the error is of the
first such name.  And it makes no difference whether data is given at once, or for the module, or
for each export alike. -/
theorem resolve_spec (exports : List ExportName) (module : ModuleReference) (d : Descriptor)
    (hmaps : ∀ story supplied, supply d.data story = .ok supplied → supplied.keys.Nodup) :
    ((∃ plan, (resolve exports module d).start.1 = .ok plan) ↔
      ∃ selected, selection d exports module.realPath = .ok selected ∧
        (∀ story ∈ selected, story ∈ exports) ∧ Answers d.data selected) ∧
    (∀ plan selected, (resolve exports module d).start.1 = .ok plan →
      selection d exports module.realPath = .ok selected →
      List.Forall₂ (fun story entry => ∃ supplied, supply d.data story = .ok supplied ∧
        IsEntry module d story supplied entry) selected plan) ∧
    (∀ before unknown after,
      selection d exports module.realPath = .ok (before ++ unknown :: after) →
      (∀ story ∈ before, story ∈ exports) → unknown ∉ exports →
      (resolve exports module d).start.1 = .error (.unknownExport unknown module.realPath)) ∧
    (∀ data,
      (resolve exports module { d with data := .perModule (.ok data) }).start.1 =
        (resolve exports module { d with data := .fixed data }).start.1 ∧
      (resolve exports module { d with data := .perExport fun _ => .ok data }).start.1 =
        (resolve exports module { d with data := .fixed data }).start.1) := by
  refine ⟨?_, ?_, ?_, ?_⟩
  · -- when there is a plan
    constructor
    · rintro ⟨plan, hplan⟩
      obtain ⟨selected, hselection, hknown, hanswers, -⟩ := resolve_eq_ok_iff.mp hplan
      exact ⟨selected, hselection, hknown, hanswers⟩
    · rintro ⟨selected, hselection, hknown, hanswers⟩
      exact ⟨_, resolve_eq_ok_iff.mpr ⟨selected, hselection, hknown, hanswers, rfl⟩⟩
  · -- its entries
    intro plan selected hplan hselection
    obtain ⟨selected', hselection', -, hanswers, rfl⟩ := resolve_eq_ok_iff.mp hplan
    cases hselection.symm.trans hselection'
    exact forall₂_isEntry hmaps hanswers
  · -- an unknown name
    intro before unknown after hselection hbefore hunknown
    exact resolve_of_unknown hselection hbefore hunknown
  · -- the ways to give data
    intro data
    have hfixed : ∀ selected, Answers (.fixed data) selected := fun _ => trivial
    exact ⟨resolve_congr_data (fun _ => ⟨data, rfl⟩) hfixed fun _ => rfl,
      resolve_congr_data (fun _ _ _ => ⟨data, rfl⟩) hfixed fun _ => rfl⟩

/-- A module, and its exports: a default one and two others. -/
def sampledModule : ModuleReference :=
  ⟨⟨"/p/Button.js"⟩, ⟨"/p/Button.storytest.js"⟩, "/Button.js", .js⟩

def sampledExports : List ExportName := [⟨"default"⟩, ⟨"Small"⟩, ⟨"Primary"⟩]

/-- A request for the others the other way round, with a title and data for each.  The data names
the export anew. -/
def sampledRequest : Descriptor :=
  { title := .computed fun story => story.text ++ " renders"
    filter := some (.ofModule fun exports _ => .ok (exports.reverse.filter (!·.isDefault)))
    data := .perExport fun story =>
      .ok [("label", .string (story.text ++ "!")), ("exportName", .string "Renamed")] }

/-- The same for a choice with two names in it that are no export's. -/
def ghostRequest : Descriptor :=
  { sampledRequest with
    filter := some (.ofExports fun _ => [⟨"Small"⟩, ⟨"Ghost"⟩, ⟨"Primary"⟩, ⟨"Other"⟩]) }

/-- The first request has its plan, and the second its error. -/
theorem sampledRequest_resolves :
    (∀ story supplied, supply sampledRequest.data story = .ok supplied → supplied.keys.Nodup) ∧
    (∃ plan, (resolve sampledExports sampledModule sampledRequest).start.1 = .ok plan ∧
      List.Forall₂ (fun story entry => ∃ supplied, supply sampledRequest.data story = .ok supplied ∧
        IsEntry sampledModule sampledRequest story supplied entry)
        [⟨"Primary"⟩, ⟨"Small"⟩] plan) ∧
    (resolve sampledExports sampledModule ghostRequest).start.1 =
      .error (.unknownExport ⟨"Ghost"⟩ ⟨"/p/Button.js"⟩) := by
  have hmaps : ∀ story supplied, supply sampledRequest.data story = .ok supplied →
      supplied.keys.Nodup := by
    rintro story supplied h
    cases h
    simp [DataMap.keys]
  have hselection : selection sampledRequest sampledExports sampledModule.realPath =
      .ok [⟨"Primary"⟩, ⟨"Small"⟩] := rfl
  obtain ⟨hplan, hentries, -, -⟩ := resolve_spec sampledExports sampledModule sampledRequest hmaps
  obtain ⟨plan, hplan⟩ := hplan.mpr ⟨_, hselection, by decide, fun _ _ => ⟨_, rfl⟩⟩
  obtain ⟨-, -, hunknown, -⟩ := resolve_spec sampledExports sampledModule ghostRequest hmaps
  exact ⟨hmaps, ⟨plan, hplan, hentries plan _ hplan hselection⟩,
    hunknown [⟨"Small"⟩] ⟨"Ghost"⟩ [⟨"Primary"⟩, ⟨"Other"⟩] rfl (by decide) (by decide)⟩

end StorySuite.Plan
