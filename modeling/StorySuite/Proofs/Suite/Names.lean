import Mathlib.Data.Set.List
import StorySuite.Proofs.Script.Blocks
import StorySuite.Proofs.Suite.Bindings
import StorySuite.Proofs.Suite.EmbeddedData

/-!
# Proofs — Suite — the names in a suite

A suite declares exports as constants and assigns settings, under names that were accepted before.
They are accepted by a table of letters and numbers, which is not the table that the names of
variables are made of: an accepted name can name a variable unless it has a stray character or begins
with one that may only follow.  Lines whose names can all name variables are read as they are meant;
with one name that cannot, nothing of them is read.

* `isIdentifier_ofDefaultExport`, `isIdentifier_of_declares`: the names of declarations are accepted.
* **`read_exactly_if_fit`**: which names are fit, and what the lines with them are read as.
* `not_forall_fit`: names that are accepted and not fit.
-/

namespace StorySuite

open Script

/-! ### Accepted names -/

namespace BindingName

/-- The characters of a stem, the others among them replaced, begin with no figure once one stands in
front where there has to be one. -/
theorem exists_front (stem : List Char) :
    let cs := stem.map fun c => if isNameChar c then c else '_'
    ∃ c rest, (if cs.isEmpty || cs.head?.any isAsciiDigit then '_' :: cs else cs) = c :: rest ∧
      isAsciiDigit c = false ∧ ∀ d ∈ c :: rest, isNameChar d = true := by
  intro cs
  have hunder : isNameChar '_' = true := by decide
  have hcs : ∀ d ∈ cs, isNameChar d = true := by
    simp only [cs, List.forall_mem_map]
    intro d _
    split
    · assumption
    · exact hunder
  split
  · exact ⟨'_', cs, rfl, by decide, List.forall_mem_cons.mpr ⟨hunder, hcs⟩⟩
  · rename_i hfront
    cases hsplit : cs with
    | nil => simp [hsplit] at hfront
    | cons c rest => exact ⟨c, rest, rfl, by simpa [hsplit] using hfront, hsplit ▸ hcs⟩

/-- **The default export of every module is declared under an accepted name.** -/
theorem isIdentifier_ofDefaultExport (p : Path) : isIdentifier (ofDefaultExport p) = true := by
  obtain ⟨c, rest, hfront, hdigit, hchars⟩ := exists_front (p.stem?.getD "module").toList
  have hname : ofDefaultExport p = String.ofList (c :: rest) ++ "_default" := by
    rw [← hfront]
    rfl
  have hdefault : ∀ c ∈ "_default".toList, isNameChar c = true :=
    List.all_iff_forall_prop.mp (by decide)
  -- no reserved word ends like a default binding
  have hends : ∀ name ∈ reservedWords, ¬ "_default".toList <:+ name.toList := by decide
  have hformed : isWellFormed (ofDefaultExport p) = true := by
    refine isWellFormed_iff.mpr ⟨c, rest ++ "_default".toList, by simp [hname], hdigit, ?_⟩
    rw [← List.cons_append, List.forall_mem_append]
    exact ⟨hchars, hdefault⟩
  have hfree : ofDefaultExport p ∉ reservedWords := fun h =>
    hends _ h (by simp [hname])
  simp [isIdentifier, hformed, hfree]

end BindingName

namespace StoryBinding

/-- An export is declared under an accepted name. -/
theorem isIdentifier_of_bindingName? {module : ModuleReference} {story : ExportName} {name : String}
    (h : bindingName? module story = some name) : BindingName.isIdentifier name = true := by
  obtain ⟨-, rfl⟩ | ⟨-, -, haccepted, -, -⟩ := bindingName?_eq_some_iff.mp h
  · exact BindingName.isIdentifier_ofDefaultExport _
  · exact haccepted

/-- What is declared, by the names in the suite and the names in the module. -/
theorem exists_declared (module : ModuleReference) (stories : List ExportName) :
    ∃ declared : List (String × String),
      declarations module stories = declared.map (fun d => ⟨d.1, Json.quote d.2⟩) ∧
        ∀ d ∈ declared, BindingName.isIdentifier d.1 = true := by
  have hdecl := declares_declarations module stories
  have hrange : declarations module stories ∈
      Set.range (List.map fun d : String × String => (⟨d.1, Json.quote d.2⟩ : Declaration)) := by
    rw [Set.range_list_map]
    intro d hd
    obtain ⟨story, -, hstory⟩ := (hdecl.mem_iff d).mp hd
    obtain ⟨name, -, rfl⟩ := Option.map_eq_some_iff.mp hstory
    exact ⟨(name, story.text), rfl⟩
  obtain ⟨declared, hdeclared⟩ := hrange
  refine ⟨declared, hdeclared.symm, fun d hd => ?_⟩
  have hmem : ⟨d.1, Json.quote d.2⟩ ∈ declarations module stories := by
    rw [← hdeclared]
    exact List.mem_map_of_mem hd
  obtain ⟨story, -, hstory⟩ := (hdecl.mem_iff _).mp hmem
  obtain ⟨name, hname, heq⟩ := Option.map_eq_some_iff.mp hstory
  obtain rfl : name = d.1 := congrArg Declaration.name heq
  exact isIdentifier_of_bindingName? hname

end StoryBinding

/-! ### Lines -/

namespace Suite

open StoryBinding (Declaration declarations)

/-- The keys that a suite accepts consist of accepted names. -/
theorem isIdentifier_of_isSettingKey {key : String} (h : isSettingKey key = true) :
    ∀ part ∈ Text.splitAt '.' key, BindingName.isIdentifier part = true := by
  simp only [isSettingKey, Bool.and_eq_true, List.all_eq_true] at h
  exact h.2

/-- The lines that a suite opens with. -/
def opening (declared : List (String × String)) (settings : DataMap) : List Line :=
  declared.map (fun d => .constant d.1 d.2) ++ settings.map fun f => .setting f.1 f.2

theorem toList_opening (declared : List (String × String)) (settings : DataMap) :
    (String.join
        ((declared.map fun d => (⟨d.1, Json.quote d.2⟩ : Declaration)).map Declaration.line) ++
      String.join (settings.map settingLine)).toList = Line.block (opening declared settings) := by
  have hconstant (d : String × String) : (Declaration.line ⟨d.1, Json.quote d.2⟩).toList =
      ' ' :: ' ' :: ((Line.constant d.1 d.2).chars ++ ['\n']) := by
    simp [Declaration.line, Line.chars, Parser.constantLine, Parser.exportedMemberText]
  have hsetting (f : String × Json.Value) : (settingLine f).toList =
      ' ' :: ' ' :: ((Line.setting f.1 f.2).chars ++ ['\n']) := by
    simp [settingLine, Line.chars, Parser.assignmentLine]
  simp [opening, Line.block, String.toList_join, List.flatMap_map, hconstant, hsetting]

/-- The names of the lines that a suite opens with are accepted. -/
theorem isAccepted_opening {declared : List (String × String)} {settings : DataMap}
    (hdeclared : ∀ d ∈ declared, BindingName.isIdentifier d.1 = true)
    (hsettings : ∀ f ∈ settings, isSettingKey f.1 = true) :
    ∀ l ∈ opening declared settings, l.IsAccepted := by
  simp only [opening, List.forall_mem_append, List.forall_mem_map]
  constructor
  · intro d hd
    exact List.forall_mem_singleton.mpr (hdeclared d hd)
  · exact fun f hf => isIdentifier_of_isSettingKey (hsettings f hf)

/-- **An accepted name can name a variable exactly if it has no stray character and begins with none
that may only follow.**  Every default binding is accepted, and so are all declared names and all
parts of the keys of settings.  The lines in which they stand are read as the constants and
assignments that they are meant for, in every dialect, if all names can name variables, and are no
program else. -/
theorem read_exactly_if_fit (name : String) (p : Path) (goal : Goal) (module : ModuleReference)
    (stories : List ExportName) (settings : DataMap) :
    (BindingName.isIdentifier name = true →
      (IsBindingIdentifier name ↔
        (∀ c ∈ name.toList, ¬ Text.inRanges Text.strayRanges c.toNat = true) ∧
          ∀ c ∈ name.toList.head?, ¬ Text.inRanges Text.idTailRanges c.toNat = true)) ∧
    BindingName.isIdentifier (BindingName.ofDefaultExport p) = true ∧
    ((∀ f ∈ settings, isSettingKey f.1 = true) →
      ∃ declared : List (String × String),
        declarations module stories = declared.map (fun d => ⟨d.1, Json.quote d.2⟩) ∧
        (∀ l ∈ opening declared settings, l.IsAccepted) ∧
        Program.parse? goal (String.join ((declarations module stories).map Declaration.line) ++
            String.join (settings.map settingLine)) =
          if ∀ l ∈ opening declared settings, l.Fits then
            some { items := (opening declared settings).map fun l => .mk [] l.stmt }
          else none) := by
  refine ⟨isBindingIdentifier_iff, BindingName.isIdentifier_ofDefaultExport p,
    fun hsettings => ?_⟩
  obtain ⟨declared, hdeclared, hnames⟩ := StoryBinding.exists_declared module stories
  have haccepted := isAccepted_opening hnames hsettings
  refine ⟨declared, hdeclared, haccepted, ?_⟩
  rw [Program.parse?_eq_read?, hdeclared, toList_opening]
  exact Program.read?_block goal haccepted

/-- A story under a plain name, and a setting below another one. -/
theorem reads_plain_names : IsBindingIdentifier "Primary" ∧
    ∃ items, Program.parse? ⟨.js, false, false⟩
      (String.join ((declarations Template.blankModule [⟨"Primary"⟩]).map Declaration.line) ++
        String.join ([("viewport.isWide", .bool true)].map settingLine)) = some { items } := by
  obtain ⟨hname, -, hlines⟩ := read_exactly_if_fit "Primary" ⟨"A.js"⟩ ⟨.js, false, false⟩
    Template.blankModule [⟨"Primary"⟩] [("viewport.isWide", .bool true)]
  obtain ⟨declared, hdeclared, -, hread⟩ := hlines (by decide +kernel)
  have hprimary : IsBindingIdentifier "Primary" := by
    refine (hname (by decide)).mpr
      ⟨List.all_iff_forall_prop.mp (by decide +kernel), fun c hc => ?_⟩
    obtain rfl : 'P' = c := Option.some.inj hc
    decide +kernel
  have hone : declarations Template.blankModule [⟨"Primary"⟩] = [⟨"Primary", "\"Primary\""⟩] := by
    decide +kernel
  have hsetting : Line.Fits (.setting "viewport.isWide" (.bool true)) := by decide +kernel
  have hfits : ∀ l ∈ opening declared [("viewport.isWide", .bool true)], l.Fits := by
    simp only [opening, List.forall_mem_append, List.forall_mem_map, List.forall_mem_singleton]
    refine ⟨fun d hd => ?_, hsetting⟩
    have hmem : ⟨d.1, Json.quote d.2⟩ ∈ [(⟨"Primary", "\"Primary\""⟩ : Declaration)] := by
      rw [← hone, hdeclared]
      exact List.mem_map_of_mem hd
    have hname : d.1 = "Primary" := congrArg Declaration.name (List.mem_singleton.mp hmem)
    exact List.forall_mem_singleton.mpr (hname ▸ hprimary)
  rw [if_pos hfits] at hread
  exact ⟨hprimary, _, hread⟩

/-- A number above the line may stand in what is accepted and in no name: a story of such a name, and
the default export of a file of such a name, are declared under names that are none. -/
theorem not_forall_fit :
    (¬ ∀ name, BindingName.isIdentifier name = true → IsBindingIdentifier name) ∧
    (¬ ∀ p : Path, IsBindingIdentifier (BindingName.ofDefaultExport p)) ∧
    ¬ ∀ (goal : Goal) (module : ModuleReference) (stories : List ExportName),
      (Program.parse? goal
        (String.join ((declarations module stories).map Declaration.line))).isSome = true := by
  refine ⟨fun h => absurd (h "a²" (by decide +kernel)) (by decide +kernel),
    fun h => absurd (h ⟨"/p/x².js"⟩) (by decide +kernel), fun h => ?_⟩
  exact absurd (h ⟨.js, false, false⟩ Template.blankModule [⟨"a²"⟩]) (by decide +kernel)

end Suite

end StorySuite
