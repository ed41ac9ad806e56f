import Mathlib.Data.List.Nodup
import StorySuite.Proofs.Script.Reading
import StorySuite.Proofs.Template.Renders
import StorySuite.Proofs.Template.Texts
import StorySuite.Script.Scope

/-!
# Proofs — Suite — what a suite declares for its exports

A suite declares the exports that it tests, next to names of its own and around tests that declare
names of theirs.  The declared names are kept apart from each other and from all of these, so every
test reads the export that it is about.

* `reserves_suite`, `reserves_testItem`: the names that generated code declares for itself or takes
  from outside are all reserved.
* `declares_declarations`: a suite declares the exports that it can, each once.
* **`declarations_unambiguous`**: declared names are distinct and none is a reserved one, and the
  expression by which a test reaches its export reads that export, wherever it stands in the suite
  and the test.
-/

namespace StorySuite

open Script Template

/-! ### The names of generated code -/

namespace Script.Program

/-- The names of a program that is one call, the last argument of which is a function: those that
the function declares, and those that the program uses without declaring them. -/
def callNames? (p : Program) : Option (List String) :=
  match p.items with
  | [.mk _ (.expr (.call _ _ arguments _ _))] =>
    match arguments.getLast? with
    | some (.function (.mk _ _ _ _ ps _ body)) =>
      some (declaredAll ps ++ bodyNames body ++ freeOfItems p.items)
    | _ => none
  | _ => none

end Script.Program

namespace Template

/-- The names of the code that a template gives: those that it declares in the function that it
hands over, and those that it takes from outside. -/
def ownNames? (pieces : List TemplatePiece) (b : Bindings) : Option (List String) := do
  let code ← renderPieces? b pieces
  let program ← Program.parse? { dialect := .js, isModule := false } code
  program.callNames?

/-- The names, read from the characters of the code. -/
theorem ownNames?_eq (pieces : List TemplatePiece) (b : Bindings) :
    ownNames? pieces b =
      (characters? b pieces).bind fun cs =>
        (Program.read? { dialect := .js, isModule := false } cs).bind Program.callNames? := by
  simp only [ownNames?, renderPieces?_eq_characters, Option.bind_eq_bind, Option.bind_map,
    Function.comp_def, Program.parse?_ofList]

/-- A module of no name. -/
def blankModule : ModuleReference :=
  { realPath := ⟨""⟩, virtualPath := ⟨""⟩, publicUrl := "", dialect := .js }

/-- A suite without stories and settings in which all that the template may hold is held: the title
is looked up, and every hook is wired. -/
def fullSuite : Bindings :=
  Suite.bindings blankModule [] [] (some .unknown)
    { hookNamespaces := [], titleFromDefault := true, settings := [] } []

/-- A test in which all that the template may hold is held: it runs alone and awaits its steps.  Its
function is another module's export. -/
def fullItem : Bindings :=
  Item.bindings
    { module := blankModule, body := .reference "" "" .async, activation := none,
      arguments := [], metadata := [] }
    { story := ⟨"-"⟩, title := "", data := [] } true

/-- All names of the code that a template gives are reserved. -/
def Reserves (pieces : List TemplatePiece) (b : Bindings) : Prop :=
  ∃ names, ownNames? pieces b = some names ∧ ∀ name ∈ names, name ∈ StoryBinding.suiteNames

theorem reserves_of_characters {pieces : List TemplatePiece} {b : Bindings}
    (h : ((characters? b pieces).bind fun cs =>
      (Program.read? { dialect := .js, isModule := false } cs).bind Program.callNames?).any
        (·.all StoryBinding.suiteNames.contains) = true) :
    Reserves pieces b := by
  rw [← ownNames?_eq] at h
  cases hnames : ownNames? pieces b with
  | none => simp [hnames] at h
  | some names => exact ⟨names, hnames, by simpa [hnames] using h⟩

/-- A suite uses reserved names only. -/
theorem reserves_suite : Reserves suite fullSuite :=
  reserves_of_characters (by decide +kernel)

/-- A test uses reserved names only. -/
theorem reserves_testItem : Reserves testItem fullItem :=
  reserves_of_characters (by decide +kernel)

end Template

/-! ### Declared names -/

namespace StoryBinding

/-- No reserved name ends like a default binding. -/
theorem defaultBinding_not_mem_suiteNames (module : ModuleReference) :
    module.defaultBinding ∉ suiteNames := by
  have hends : ∀ name ∈ suiteNames, ¬ "_default".toList <:+ name.toList := by decide
  intro h
  refine hends _ h ?_
  simp only [ModuleReference.defaultBinding, BindingName.ofDefaultExport, String.toList_append]
  exact List.suffix_append _ _

/-- The default export is declared under the default binding, another export under its own name,
which then is neither reserved nor the default binding. -/
theorem bindingName?_eq_some_iff {module : ModuleReference} {story : ExportName} {name : String} :
    bindingName? module story = some name ↔
      story.text = "default" ∧ name = module.defaultBinding ∨
      story.text ≠ "default" ∧ name = story.text ∧ BindingName.isIdentifier name = true ∧
        name ∉ suiteNames ∧ name ≠ module.defaultBinding := by
  unfold bindingName? ExportName.isDefault
  by_cases hdefault : story.text = "default"
  · simp only [hdefault, beq_self_eq_true, if_true, Option.some.injEq, ne_eq, not_true_eq_false,
      false_and, or_false, true_and]
    exact eq_comm
  · simp only [beq_iff_eq, hdefault, if_false, Bool.and_eq_true, Bool.not_eq_true',
      List.contains_eq_mem, decide_eq_false_iff_not, bne_iff_ne, Option.ite_none_right_eq_some,
      Option.some.injEq, false_and, false_or, not_false_eq_true, true_and, ne_eq]
    constructor
    · rintro ⟨⟨⟨hname, hfree⟩, hapart⟩, rfl⟩
      exact ⟨rfl, hname, hfree, hapart⟩
    · rintro ⟨rfl, hname, hfree, hapart⟩
      exact ⟨⟨⟨hname, hfree⟩, hapart⟩, rfl⟩

/-- A name under which an export is declared is not a reserved one. -/
theorem not_mem_suiteNames {module : ModuleReference} {story : ExportName} {name : String}
    (h : bindingName? module story = some name) : name ∉ suiteNames := by
  obtain ⟨-, rfl⟩ | ⟨-, -, -, hfree, -⟩ := bindingName?_eq_some_iff.mp h
  · exact defaultBinding_not_mem_suiteNames module
  · exact hfree

/-- Two exports are not declared under one name. -/
theorem bindingName?_inj {module : ModuleReference} {s t : ExportName} {name : String}
    (hs : bindingName? module s = some name) (ht : bindingName? module t = some name) : s = t := by
  obtain ⟨hs, rfl⟩ | ⟨-, rfl, -, -, hapart⟩ := bindingName?_eq_some_iff.mp hs <;>
    obtain ⟨ht, heq⟩ | ⟨-, heq, -, -, hapart'⟩ := bindingName?_eq_some_iff.mp ht
  · cases s; cases t; simp_all
  · exact absurd rfl hapart'
  · exact absurd heq hapart
  · cases s; cases t; exact congrArg ExportName.mk heq

/-- What a suite declares for one export. -/
def declaration? (module : ModuleReference) (story : ExportName) : Option Declaration :=
  (bindingName? module story).map fun name => ⟨name, Json.quote story.text⟩

/-- `acc` declares the exports that were met, each once. -/
structure Declares (module : ModuleReference) (met : List ExportName) (acc : List Declaration) :
    Prop where
  nodup : (acc.map Declaration.name).Nodup
  mem_iff : ∀ d, d ∈ acc ↔ ∃ story ∈ met, declaration? module story = some d

namespace Declares

variable {module : ModuleReference} {met : List ExportName} {acc : List Declaration}

/-- Nothing is declared for no export. -/
theorem start (module : ModuleReference) : Declares module [] [] :=
  ⟨by simp, by simp⟩

/-- An export that has no name to be declared under is left out. -/
theorem skip (h : Declares module met acc) {story : ExportName}
    (hnone : bindingName? module story = none) : Declares module (met ++ [story]) acc where
  nodup := h.nodup
  mem_iff d := by
    have hd : declaration? module story ≠ some d := by simp [declaration?, hnone]
    simp [h.mem_iff d, or_and_right, exists_or, hd]

/-- An export whose name is declared was met before. -/
theorem again (h : Declares module met acc) {story : ExportName} {name : String}
    (hname : bindingName? module story = some name) (hin : name ∈ acc.map Declaration.name) :
    Declares module (met ++ [story]) acc where
  nodup := h.nodup
  mem_iff d := by
    obtain ⟨e, he, rfl⟩ := List.mem_map.mp hin
    obtain ⟨before, hbefore, hdecl⟩ := (h.mem_iff e).mp he
    obtain ⟨name', hname', rfl⟩ := Option.map_eq_some_iff.mp hdecl
    cases bindingName?_inj hname hname'
    constructor
    · intro hd
      obtain ⟨s, hs, hsd⟩ := (h.mem_iff d).mp hd
      exact ⟨s, List.mem_append_left _ hs, hsd⟩
    · rintro ⟨s, hs, hsd⟩
      rcases List.mem_append.mp hs with hs | hs
      · exact (h.mem_iff d).mpr ⟨s, hs, hsd⟩
      · cases List.mem_singleton.mp hs
        exact (h.mem_iff d).mpr ⟨story, hbefore, hsd⟩

/-- An export with a new name is declared under it. -/
theorem add (h : Declares module met acc) {story : ExportName} {name : String}
    (hname : bindingName? module story = some name) (hnew : name ∉ acc.map Declaration.name) :
    Declares module (met ++ [story]) (acc ++ [⟨name, Json.quote story.text⟩]) where
  nodup := by
    rw [List.map_append, List.nodup_append]
    exact ⟨h.nodup, List.nodup_singleton _, fun a ha b hb heq => by
      cases List.mem_singleton.mp hb
      exact hnew (by rwa [heq] at ha)⟩
  mem_iff d := by
    simp only [List.mem_append, h.mem_iff d, List.mem_singleton, or_and_right, exists_or,
      exists_eq_left, declaration?, hname, Option.map_some, Option.some.injEq]
    exact or_congr_right eq_comm

/-- Declaring goes on in this way through all exports. -/
theorem declareAll : ∀ (stories : List ExportName) {met : List ExportName}
    {acc : List Declaration}, Declares module met acc →
      Declares module (met ++ stories) (declareAll module acc stories)
  | [], met, acc, h => by simpa [StoryBinding.declareAll] using h
  | story :: rest, met, acc, h => by
      rw [List.append_cons]
      unfold StoryBinding.declareAll
      split
      next hnone => exact declareAll rest (h.skip hnone)
      next name hname =>
        split
        next hany =>
          have hin : name ∈ acc.map Declaration.name := by
            simpa [List.any_eq_true, List.mem_map] using hany
          exact declareAll rest (h.again hname hin)
        next hany =>
          have hnew : name ∉ acc.map Declaration.name := by
            simpa [List.any_eq_true, List.mem_map] using hany
          exact declareAll rest (h.add hname hnew)

end Declares

/-- **The declarations of a suite are those of its exports, each under its own name once.** -/
theorem declares_declarations (module : ModuleReference) (stories : List ExportName) :
    Declares module stories (declarations module stories) :=
  Declares.declareAll stories (.start module)

/-- A name is declared once. -/
theorem Declares.filter_eq {module : ModuleReference} {met : List ExportName}
    {acc : List Declaration} (h : Declares module met acc) {d : Declaration} (hd : d ∈ acc) :
    acc.filter (·.name == d.name) = [d] := by
  have hall : ∀ e ∈ acc.filter (·.name == d.name), e = d := by
    intro e he
    obtain ⟨he, hname⟩ := List.mem_filter.mp he
    exact List.inj_on_of_nodup_map h.nodup he hd (by simpa using hname)
  have hnodup : (acc.filter (·.name == d.name)).Nodup := (List.Nodup.of_map _ h.nodup).filter _
  have hin : d ∈ acc.filter (·.name == d.name) := List.mem_filter.mpr ⟨hd, by simp⟩
  obtain ⟨n, hn⟩ : ∃ n, acc.filter (·.name == d.name) = List.replicate n d :=
    ⟨_, List.eq_replicate_of_mem hall⟩
  rw [hn] at hnodup hin ⊢
  match n, hnodup, hin with
  | 1, _, _ => rfl
  | n + 2, hnodup, _ => simp [List.replicate_succ] at hnodup

/-- A test reaches its export through the module, or through a name that the suite declares once,
and for this export. -/
theorem expression_reads {module : ModuleReference} {stories : List ExportName}
    {story : ExportName} (h : story ∈ stories) :
    expression module story = "module.exports[" ++ Json.quote story.text ++ "]" ∨
      (declarations module stories).filter (·.name == expression module story) =
        [⟨expression module story, Json.quote story.text⟩] := by
  have hdecl := declares_declarations module stories
  unfold expression
  cases hname : bindingName? module story with
  | none => exact .inl rfl
  | some name =>
      refine .inr (hdecl.filter_eq (d := ⟨name, Json.quote story.text⟩) ?_)
      exact (hdecl.mem_iff _).mpr ⟨story, h, by simp [declaration?, hname]⟩

/-! ### Where they stand -/

/-- The line that declares an export. -/
def Declaration.line (d : Declaration) : String :=
  "  const " ++ d.name ++ " = module.exports[" ++ d.exported ++ "];\n"

/-- The declarations open the body of the suite. -/
theorem suite_declares (module : ModuleReference) (stories : List ExportName)
    (items : List String) (shape : Option DefaultShape) (options : SuiteOptions)
    (settings : DataMap) :
    ∃ title rest,
      renderPieces? (Suite.bindings module stories items shape options
          (settings.map Suite.settingBinding)) suite =
        some ("describe(" ++ title ++ ", function () \x7b\n" ++
          String.join ((declarations module stories).map Declaration.line) ++ rest) := by
  obtain ⟨text, h⟩ := Option.isSome_iff_exists.mp (renderPieces?_isSome _ _
    (Suite.supplied_suite module stories items shape options settings))
  -- the template is its title, the declarations, and what stands behind them
  obtain ⟨title, lines, after, hsuite, hlines⟩ : ∃ title lines after, suite =
      [.text "describe(", title, .text ", function () \x7b\n"] ++
        ([.each "component" (.var "components") none lines] ++ after) ∧ lines = [
          .text "  const ",
          .put (.field (.var "component") "binding"),
          .text " = module.exports[",
          .put (.field (.var "component") "export"),
          .text "];\n"] := ⟨_, _, _, rfl, rfl⟩
  have hdeclared : renderPieces? (Suite.bindings module stories items shape options
      (settings.map Suite.settingBinding)) [.each "component" (.var "components") none lines] =
        some (String.join ((declarations module stories).map Declaration.line)) := by
    have hitems : eval? (Suite.bindings module stories items shape options
        (settings.map Suite.settingBinding)) (.var "components") =
          some (.array ((declarations module stories).map Suite.componentBinding)) := by
      simp [eval?, Suite.bindings, DataMap.get?]
    refine renderPieces?_each hitems fun d _ => ?_
    simp [hlines, renderPieces?, renderPiece?, eval?, DataMap.get?, Json.Value.field?, shown,
      Suite.componentBinding, Declaration.line, String.append_assoc]
  rw [h]
  rw [hsuite] at h
  obtain ⟨opening, rest, hopening, -, rfl⟩ := renderPieces?_between h hdeclared
  simp only [renderPieces?, renderPiece?, Option.bind_eq_bind, Option.bind_some, Option.pure_def,
    Option.bind_eq_some_iff, Option.some.injEq] at hopening
  obtain ⟨_, ⟨t, -, rfl⟩, rfl⟩ := hopening
  exact ⟨t, rest, by simp [String.append_assoc]⟩

/-- A test looks its export up by the expression for it. -/
theorem item_reads (inputs : ItemInputs) (entry : PlanEntry) (only : Bool) :
    ∃ before after, renderPieces? (Item.bindings inputs entry only) testItem =
      some (before ++ ("  const component = " ++ expression inputs.module entry.story ++ ";\n") ++
        after) := by
  obtain ⟨text, h⟩ := Option.isSome_iff_exists.mp (renderPieces?_isSome _ _
    (supplied_testItem inputs entry only))
  have hline : renderPieces? (Item.bindings inputs entry only)
      [.text "  const component = ", .put (.var "component"), .text ";\n"] =
        some ("  const component = " ++ expression inputs.module entry.story ++ ";\n") := by
    simp [renderPieces?, renderPiece?, eval?, Item.bindings, DataMap.get?, shown,
      String.append_assoc]
  obtain ⟨before, after, hitem⟩ : ∃ before after, testItem = before ++
      ([.text "  const component = ", .put (.var "component"), .text ";\n"] ++ after) :=
    ⟨testItem.take 31, testItem.drop 34, rfl⟩
  rw [h]
  rw [hitem] at h
  obtain ⟨s, t, -, -, rfl⟩ := renderPieces?_between h hline
  exact ⟨s, t, by simp [String.append_assoc]⟩

/-- **The declarations of a suite are unambiguous and capture nothing.**  Their names are distinct.
None is a name that a suite or a test declares itself or takes from outside.  The expression by
which the test of an export reaches it reads the module's member of that name, or is a name that
the suite declares once, and for this member.  The declarations stand in the suite's function in
front of everything else, and the expression stands in the test where the component is read. -/
theorem declarations_unambiguous (module : ModuleReference) (stories : List ExportName) :
    ((declarations module stories).map Declaration.name).Nodup ∧
    (∃ suiteOwn itemOwn, ownNames? suite fullSuite = some suiteOwn ∧
      ownNames? testItem fullItem = some itemOwn ∧
      ∀ d ∈ declarations module stories, d.name ∉ suiteOwn ∧ d.name ∉ itemOwn) ∧
    (∀ story ∈ stories,
      expression module story = "module.exports[" ++ Json.quote story.text ++ "]" ∨
        (declarations module stories).filter (·.name == expression module story) =
          [⟨expression module story, Json.quote story.text⟩]) ∧
    (∀ items shape options (settings : DataMap), ∃ title rest,
      renderPieces? (Suite.bindings module stories items shape options
          (settings.map Suite.settingBinding)) suite =
        some ("describe(" ++ title ++ ", function () \x7b\n" ++
          String.join ((declarations module stories).map Declaration.line) ++ rest)) ∧
    (∀ (inputs : ItemInputs) entry only, ∃ before after,
      renderPieces? (Item.bindings { inputs with module } entry only) testItem =
        some (before ++ ("  const component = " ++ expression module entry.story ++ ";\n") ++
          after)) := by
  have hdeclares := declares_declarations module stories
  obtain ⟨suiteOwn, hsuite, hsuiteReserved⟩ := reserves_suite
  obtain ⟨itemOwn, hitem, hitemReserved⟩ := reserves_testItem
  refine ⟨hdeclares.nodup, ⟨suiteOwn, itemOwn, hsuite, hitem, fun d hd => ?_⟩,
    fun story hstory => expression_reads hstory,
    fun items shape options settings => suite_declares module stories items shape options settings,
    fun inputs entry only => item_reads { inputs with module } entry only⟩
  -- a declared name ends as no name of the templates does
  obtain ⟨story, -, hstory⟩ := (hdeclares.mem_iff d).mp hd
  obtain ⟨name, hname, rfl⟩ := Option.map_eq_some_iff.mp hstory
  have hfree := not_mem_suiteNames hname
  exact ⟨fun h => hfree (hsuiteReserved _ h), fun h => hfree (hitemReserved _ h)⟩

end StoryBinding

end StorySuite
