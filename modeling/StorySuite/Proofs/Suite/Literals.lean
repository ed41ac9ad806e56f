import StorySuite.InlineFunction
import StorySuite.Proofs.Json.Words
import StorySuite.Proofs.Suite.Alone
import StorySuite.Proofs.Suite.Awaiting
import StorySuite.Proofs.Suite.Names
import StorySuite.Synthesis.Basic

/-!
# Proofs — Suite — strings in generated code

Titles, names of exports, paths and messages stand in generated code as string literals.  Whatever
such a string is, its literal ends where its text ends.  So two tests that differ in strings alone,
and reach the component by the same binding, have the same words but for these literals.

The texts of the two tests are compared part by part (`Template.TextsMatch`): the template's own
words, the literals, the data, and the body.  A body that is given as text has to end where its text
ends, too (`StandsAlone`).  One whose last line is a comment goes on behind its text; what is in the
comment depends on the strings there, for a path may hold the end of a line.

* **`Item.exists_partMatches`**: the texts of the two tests match.
* **`Item.strings_stay_literals`**: literals in generated code, and the words of the two tests.
* `Item.not_forall_strings_stay_literals`: a body that is accepted, and two paths.
-/

namespace StorySuite

open Json Script

/-! ### Templates with words alike -/

namespace Template

/-- The piece is a fixed text that is written with blanks. -/
def isSpacedPiece : TemplatePiece → Bool
  | .text s => isSpaced ((Text.characters s).length + 1) (Text.characters s)
  | _ => false

/-- The texts that are written around values. -/
def fixedTexts : List String := [
  "require(", ")[", "module.exports[", "]", "(", ")", ";\n", "it(", "it.only(", ", ", "async ",
  "await Promise.resolve(", "storyHooks.preRender.call(this, ", "storyHooks.postRender.call(this, ",
  "test(browser)", "component.test(browser, data)"]

theorem isSpaced_fixedTexts :
    ∀ s ∈ fixedTexts, isSpaced (s.toList.length + 1) s.toList = true := by
  have hall : fixedTexts.all (fun s =>
      isSpaced ((Text.characters s).length + 1) (Text.characters s)) = true := by decide +kernel
  simpa using hall

theorem matches_fixed {script : Bool} {pairs : List (String × String)} {slashes : List Bool}
    {s : String} (hs : s ∈ fixedTexts) : Matches script pairs slashes slashes s.toList s.toList :=
  .spaced (isSpaced_fixedTexts s hs)

/-- The template's texts under the two bindings are alike in front of texts that are alike. -/
def TextsMatch (script : Bool) (pairs : List (String × String)) (slashes left : List Bool)
    (b b' : Bindings) (ps : List TemplatePiece) : Prop :=
  ∃ s s', renderPieces? b ps = some s ∧ renderPieces? b' ps = some s' ∧
    Matches script pairs slashes left s.toList s'.toList

namespace TextsMatch

variable {script : Bool} {pairs : List (String × String)} {slashes middle left : List Bool}
  {b b' : Bindings} {ps qs : List TemplatePiece}

theorem append (hps : TextsMatch script pairs slashes middle b b' ps)
    (hqs : TextsMatch script pairs middle left b b' qs) :
    TextsMatch script pairs slashes left b b' (ps ++ qs) := by
  obtain ⟨s, s', hs, hs', hfront⟩ := hps
  obtain ⟨t, t', ht, ht', hback⟩ := hqs
  refine ⟨s ++ t, s' ++ t', ?_, ?_, ?_⟩
  · rw [renderPieces?_append, hs, ht]
    rfl
  · rw [renderPieces?_append, hs', ht']
    rfl
  · rw [String.toList_append, String.toList_append]
    exact hfront.append hback

theorem text {s : String} (h : Matches script pairs slashes left s.toList s.toList) :
    TextsMatch script pairs slashes left b b' [.text s] :=
  ⟨s ++ "", s ++ "", rfl, rfl, by simpa using h⟩

/-- Pieces that are fixed. -/
theorem fixed : ∀ {ps : List TemplatePiece}, ps.all isSpacedPiece = true →
    TextsMatch script pairs slashes slashes b b' ps
  | [], _ => ⟨"", "", rfl, rfl, StandsAlone.nil.matches⟩
  | p :: ps, h => by
      rw [List.all_cons, Bool.and_eq_true] at h
      obtain ⟨hpiece, hrest⟩ := h
      cases p with
      | text s =>
          have hown : TextsMatch script pairs slashes slashes b b' [.text s] :=
            text (Text.characters_eq s ▸ Matches.spaced hpiece)
          exact hown.append (fixed hrest)
      | put | choice | each => cases hpiece

theorem put {e : TemplateExpr} {s s' : String} (hs : eval? b e = some (.string s))
    (hs' : eval? b' e = some (.string s'))
    (h : Matches script pairs slashes left s.toList s'.toList) :
    TextsMatch script pairs slashes left b b' [.put e] :=
  ⟨s ++ "", s' ++ "", by simp [renderPieces?, renderPiece?, hs, shown],
    by simp [renderPieces?, renderPiece?, hs', shown], by simpa using h⟩

/-- The steps of a callback, each with what is behind it. -/
theorem stepped_cons {e : TemplateExpr} {behind : List TemplatePiece}
    {steps : List (TemplateExpr × List TemplatePiece)}
    (hstep : TextsMatch script pairs slashes middle b b' [.put (.step e)])
    (hrest : TextsMatch script pairs middle left b b' (behind ++ stepped steps)) :
    TextsMatch script pairs slashes left b b' (stepped ((e, behind) :: steps)) :=
  hstep.append hrest

/-- A step, awaited or not. -/
theorem step {e : TemplateExpr} {s s' : String} (hs : eval? b e = some (.string s))
    (hs' : eval? b' e = some (.string s')) (hstyle : isAsync b = isAsync b')
    (h : Matches script pairs slashes left s.toList s'.toList) :
    TextsMatch script pairs slashes left b b' [.put (.step e)] := by
  refine ⟨_, _, renderPieces?_step hs, renderPieces?_step hs', ?_⟩
  rw [hstyle]
  cases isAsync b' with
  | false => exact h
  | true =>
      simp only [awaited, if_true, String.toList_append]
      exact ((matches_fixed (by simp [fixedTexts])).append h).append
        (matches_fixed (by simp [fixedTexts]))

end TextsMatch

end Template

/-! ### Tests that differ in strings -/

/-- The two bodies are one text, or the functions of two modules of one style. -/
def TestBody.SameButStrings : TestBody → TestBody → Prop
  | .inline f, .inline f' => f = f'
  | .reference _ _ style, .reference _ _ style' => style = style'
  | _, _ => False

/-- The strings that a body is named by. -/
def TestBody.strings : TestBody → List String
  | .inline _ => []
  | .reference module name _ => [module, name]

namespace Item

open Template

/-- The strings that a test is made of. -/
def strings (inputs : ItemInputs) (entry : PlanEntry) : List String :=
  [entry.title, entry.story.text, inputs.module.publicUrl, inputs.module.realPath.text,
    hookMessage .preRender entry.title, hookMessage .postRender entry.title] ++
  inputs.body.strings

/-- The two tests differ in their strings only, and reach the component by the same binding. -/
structure SameButStrings (inputs inputs' : ItemInputs) (entry entry' : PlanEntry) : Prop where
  body : inputs.body.SameButStrings inputs'.body
  metadata : inputs.metadata = inputs'.metadata
  data : ∃ supplied,
    entry.data = Plan.mergeData entry.story inputs.module.realPath.text supplied ∧
    entry'.data = Plan.mergeData entry'.story inputs'.module.realPath.text supplied
  binding : StoryBinding.bindingName? inputs.module entry.story =
    StoryBinding.bindingName? inputs'.module entry'.story

/-- The strings of the one test, each with the one of the other test in its place. -/
def stringPairs (inputs inputs' : ItemInputs) (entry entry' : PlanEntry) :
    List (String × String) :=
  (strings inputs entry).zip (strings inputs' entry')

section Pairs

variable {script : Bool} {slashes left : List Bool} {inputs inputs' : ItemInputs}
  {entry entry' : PlanEntry}

/-- What the functions that make the tests are given. -/
theorem fieldsAlike_context (h : SameButStrings inputs inputs' entry entry') :
    FieldsAlike script (stringPairs inputs inputs' entry entry') (context inputs entry)
      (context inputs' entry') := by
  obtain ⟨supplied, hdata, hdata'⟩ := h.data
  have hstory : (entry.story.text, entry'.story.text) ∈
      stringPairs inputs inputs' entry entry' := by
    simp [stringPairs, strings]
  have hpath : (inputs.module.realPath.text, inputs'.module.realPath.text) ∈
      stringPairs inputs inputs' entry entry' := by
    simp [stringPairs, strings]
  have hurl : (inputs.module.publicUrl, inputs'.module.publicUrl) ∈
      stringPairs inputs inputs' entry entry' := by
    simp [stringPairs, strings]
  have hown : FieldsAlike script (stringPairs inputs inputs' entry entry')
      [("exportName", .string entry.story.text),
        ("modulePath", .string inputs.module.realPath.text)]
      [("exportName", .string entry'.story.text),
        ("modulePath", .string inputs'.module.realPath.text)] :=
    .cons ⟨rfl, matchesOperand_string hstory⟩ (.cons ⟨rfl, matchesOperand_string hpath⟩ .nil)
  have hmerged : FieldsAlike script (stringPairs inputs inputs' entry entry') entry.data
      entry'.data := by
    rw [hdata, hdata']
    exact hown.insertAll supplied
  exact .cons ⟨rfl, .of_matches (matches_object hmerged)⟩
    (.cons ⟨rfl, matchesOperand_string hurl⟩
      (.cons ⟨rfl, matchesOperand_string hpath⟩ (.cons ⟨rfl, matchesOperand_string hstory⟩ .nil)))

/-- What the hooks are given. -/
theorem fieldsAlike_hookContext (h : SameButStrings inputs inputs' entry entry') :
    FieldsAlike script (stringPairs inputs inputs' entry entry') (hookContext inputs entry)
      (hookContext inputs' entry') := by
  have hstory : (entry.story.text, entry'.story.text) ∈
      stringPairs inputs inputs' entry entry' := by
    simp [stringPairs, strings]
  have htitle : (entry.title, entry'.title) ∈ stringPairs inputs inputs' entry entry' := by
    simp [stringPairs, strings]
  rw [hookContext, hookContext, h.metadata]
  exact ((fieldsAlike_refl inputs'.metadata).insert "name" (matchesOperand_string hstory)).insert
    "title" (matchesOperand_string htitle)

/-- The expressions for the functions that make the tests. -/
theorem exists_matches_expression (h : SameButStrings inputs inputs' entry entry')
    (hbody : ∀ f, inputs.body = .inline f →
      ∃ left, StandsAlone script slashes left inputs.body.expression.toList) :
    ∃ left, Matches script (stringPairs inputs inputs' entry entry') slashes left
      inputs.body.expression.toList inputs'.body.expression.toList := by
  have hsame := h.body
  cases hone : inputs.body with
  | inline f =>
      cases hother : inputs'.body with
      | inline f' =>
          rw [hone, hother] at hsame
          obtain ⟨left, halone⟩ := hbody f hone
          rw [hone] at halone
          exact ⟨left, hsame ▸ halone.matches⟩
      | reference => simp [hone, hother, TestBody.SameButStrings] at hsame
  | reference module name style =>
      cases hother : inputs'.body with
      | inline => simp [hone, hother, TestBody.SameButStrings] at hsame
      | reference module' name' style' =>
          have hmodule : (module, module') ∈ stringPairs inputs inputs' entry entry' := by
            simp [stringPairs, strings, hone, hother, TestBody.strings]
          have hname : (name, name') ∈ stringPairs inputs inputs' entry entry' := by
            simp [stringPairs, strings, hone, hother, TestBody.strings]
          have hopen : "require(" ∈ fixedTexts := by simp [fixedTexts]
          have hbetween : ")[" ∈ fixedTexts := by simp [fixedTexts]
          have hclose : "]" ∈ fixedTexts := by simp [fixedTexts]
          refine ⟨slashes, ?_⟩
          simp only [TestBody.expression, String.toList_append]
          exact ((((matches_fixed hopen).append (.literal hmodule)).append
            (matches_fixed hbetween)).append (.literal hname)).append (matches_fixed hclose)

/-- The expressions for the functions that make the tests, called. -/
theorem exists_matches_call (h : SameButStrings inputs inputs' entry entry')
    (hbody : ∀ f, inputs.body = .inline f →
      ∃ left, StandsAlone script slashes left inputs.body.expression.toList) :
    ∃ left, Matches script (stringPairs inputs inputs' entry entry') slashes left
      (inputs.body.expression ++ "(" ++ Value.text (.object (context inputs entry)) ++ ")").toList
      (inputs'.body.expression ++ "(" ++ Value.text (.object (context inputs' entry')) ++
        ")").toList := by
  have hopen : "(" ∈ fixedTexts := by simp [fixedTexts]
  have hclose : ")" ∈ fixedTexts := by simp [fixedTexts]
  obtain ⟨left, hfunction⟩ := exists_matches_expression h hbody
  refine ⟨left, ?_⟩
  simp only [String.toList_append]
  exact ((hfunction.append (matches_fixed hopen)).append
    (matches_object (fieldsAlike_context h) left)).append (matches_fixed hclose)

theorem style_eq (h : SameButStrings inputs inputs' entry entry') :
    inputs.body.style = inputs'.body.style := by
  have hsame := h.body
  cases hone : inputs.body <;> cases hother : inputs'.body <;>
    simp_all [TestBody.SameButStrings, TestBody.style]

/-- A part of the template of a test has texts for the two tests that match. -/
def PartMatches (script : Bool) (slashes left : List Bool) (inputs inputs' : ItemInputs)
    (entry entry' : PlanEntry) (only : Bool) (part : List TemplatePiece) : Prop :=
  TextsMatch script (stringPairs inputs inputs' entry entry') slashes left
    (bindings inputs entry only) (bindings inputs' entry' only) part

/-- The expression by which the component is reached, with the end of its line. -/
theorem partMatches_component (h : SameButStrings inputs inputs' entry entry') (only : Bool) :
    PartMatches script slashes slashes inputs inputs' entry entry' only
      [.put (.var "component"), .text ";\n"] := by
  have hend : ";\n" ∈ fixedTexts := by simp [fixedTexts]
  refine ⟨StoryBinding.expression inputs.module entry.story ++ (";\n" ++ ""),
    StoryBinding.expression inputs'.module entry'.story ++ (";\n" ++ ""), rfl, rfl, ?_⟩
  -- both are reached by the same name, or both as members
  have hsame := h.binding
  cases hname : StoryBinding.bindingName? inputs.module entry.story with
  | some name =>
      rw [hname] at hsame
      have haccepted :=
        (isIdentifier_iff.mp (StoryBinding.isIdentifier_of_bindingName? hname)).1
      refine ⟨fun hrest => ?_⟩
      simp only [StoryBinding.expression, hname, ← hsame, String.append_empty,
        String.toList_append, List.append_assoc]
      exact .name haccepted (by decide) (by decide) ((matches_fixed hend).inFront hrest)
  | none =>
      rw [hname] at hsame
      have hopen : "module.exports[" ∈ fixedTexts := by simp [fixedTexts]
      have hclose : "]" ∈ fixedTexts := by simp [fixedTexts]
      have hstory : (entry.story.text, entry'.story.text) ∈
          stringPairs inputs inputs' entry entry' := by
        simp [stringPairs, strings]
      simp only [StoryBinding.expression, hname, ← hsame, String.append_empty,
        String.toList_append]
      exact (((matches_fixed hopen).append (.literal hstory)).append (matches_fixed hclose)).append
        (matches_fixed hend)

/-- The calls of the hooks. -/
theorem matches_hookCall (h : SameButStrings inputs inputs' entry entry') {call : String}
    (hcall : call ∈ fixedTexts) :
    Matches script (stringPairs inputs inputs' entry entry') slashes slashes
      (call ++ Value.text (.object (hookContext inputs entry)) ++ ")").toList
      (call ++ Value.text (.object (hookContext inputs' entry')) ++ ")").toList := by
  have hclose : ")" ∈ fixedTexts := by simp [fixedTexts]
  simp only [String.toList_append]
  exact ((matches_fixed hcall).append (matches_object (fieldsAlike_hookContext h) slashes)).append
    (matches_fixed hclose)

/-- A place for a literal. -/
theorem partMatches_literal {only : Bool} {e : TemplateExpr} {s s' : String}
    (hs : eval? (bindings inputs entry only) e = some (.string (Json.quote s)))
    (hs' : eval? (bindings inputs' entry' only) e = some (.string (Json.quote s')))
    (hmem : (s, s') ∈ stringPairs inputs inputs' entry entry') :
    PartMatches script slashes slashes inputs inputs' entry entry' only [.put e] :=
  .put hs hs' (.literal hmem)

/-- What is in front of the callbacks. -/
theorem partMatches_head (h : SameButStrings inputs inputs' entry entry') (only : Bool) :
    PartMatches script slashes slashes inputs inputs' entry entry' only
      (testHead ++ [suspensionMark]) := by
  have hmark : PartMatches script slashes slashes inputs inputs' entry entry' only
      [.text "it", .choice (.var "only") [.text ".only"] [], .text "("] := by
    have hfixed : mark only ∈ fixedTexts := by cases only <;> simp [mark, fixedTexts]
    exact ⟨mark only, mark only, by cases only <;> rfl, by cases only <;> rfl,
      matches_fixed hfixed⟩
  have htitle : PartMatches script slashes slashes inputs inputs' entry entry' only
      [.put (.var "title")] :=
    partMatches_literal rfl rfl (by simp [stringPairs, strings])
  have hcomma : ", " ∈ fixedTexts := by simp [fixedTexts]
  have hsuspension : PartMatches script slashes slashes inputs inputs' entry entry' only
      [suspensionMark] := by
    have hthis : renderPiece? (bindings inputs entry only) suspensionMark =
        some (asyncWord inputs.body.style) := renderPiece?_suspensionMark rfl
    have hother : renderPiece? (bindings inputs' entry' only) suspensionMark =
        some (asyncWord inputs.body.style) :=
      renderPiece?_suspensionMark (by rw [style_eq h]; rfl)
    refine ⟨_, _, by rw [renderPieces?, hthis]; rfl, by rw [renderPieces?, hother]; rfl, ?_⟩
    have hfixed : "async " ∈ fixedTexts := by simp [fixedTexts]
    cases inputs.body.style with
    | sync => exact StandsAlone.nil.matches
    | async => exact matches_fixed hfixed
  exact (hmark.append (htitle.append (.text (matches_fixed hcomma)))).append hsuspension

/-- **The texts of the two tests match.** -/
theorem exists_partMatches (h : SameButStrings inputs inputs' entry entry') (only : Bool)
    (hbody : ∀ f, inputs.body = .inline f →
      ∃ left, StandsAlone script slashes left inputs.body.expression.toList) :
    ∃ left, PartMatches script slashes left inputs inputs' entry entry' only testItem := by
  obtain ⟨left, hcall⟩ := exists_matches_call h hbody
  have hstyle : isAsync (bindings inputs entry only) = isAsync (bindings inputs' entry' only) := by
    rw [isAsync_bindings, isAsync_bindings, style_eq h]
  have hpre : "storyHooks.preRender.call(this, " ∈ fixedTexts := by simp [fixedTexts]
  have hpost : "storyHooks.postRender.call(this, " ∈ fixedTexts := by simp [fixedTexts]
  have htest : "test(browser)" ∈ fixedTexts := by simp [fixedTexts]
  have hcomponent : "component.test(browser, data)" ∈ fixedTexts := by simp [fixedTexts]
  -- the rest of the template is its own
  have hfixed : ∀ part ∈ [testFront, (testItem.drop 11).take 3, (testItem.drop 15).take 5,
      (testItem.drop 21).take 2, (testItem.drop 24).take 8, (testItem.drop 34).take 6,
      (testItem.drop 41).take 10, (testItem.drop 52).take 3, testItem.drop 56],
      part.all isSpacedPiece = true := List.all_iff_forall_prop.mp (by decide +kernel)
  have hown (part : List TemplatePiece) (hpart : part.all isSpacedPiece = true)
      (slashes : List Bool) : PartMatches script slashes slashes inputs inputs' entry entry' only
        part := .fixed hpart
  simp only [List.forall_mem_cons] at hfixed
  obtain ⟨hfront, h11, h15, h21, h24, h34, h41, h52, h56, -⟩ := hfixed
  have hbehind₁ : PartMatches script slashes slashes inputs inputs' entry entry' only
      ((testItem.drop 11).take 9) := by
    have hcut : (testItem.drop 11).take 9 = (testItem.drop 11).take 3 ++
      ([.put (.var "pre_render_message")] ++ (testItem.drop 15).take 5) := rfl
    rw [hcut]
    exact (hown _ h11 _).append
      ((partMatches_literal rfl rfl (by simp [stringPairs, strings])).append (hown _ h15 _))
  have hbehind₃ : PartMatches script left left inputs inputs' entry entry' only
      ((testItem.drop 24).take 16) := by
    have hcut : (testItem.drop 24).take 16 = (testItem.drop 24).take 8 ++
      ([.put (.var "component"), .text ";\n"] ++ (testItem.drop 34).take 6) := rfl
    rw [hcut]
    exact (hown _ h24 _).append ((partMatches_component h only).append (hown _ h34 _))
  have hbehind₅ : PartMatches script left left inputs inputs' entry entry' only
      (testItem.drop 52) := by
    have hcut : testItem.drop 52 = (testItem.drop 52).take 3 ++
      ([.put (.var "post_render_message")] ++ testItem.drop 56) := rfl
    rw [hcut]
    exact (hown _ h52 _).append
      ((partMatches_literal rfl rfl (by simp [stringPairs, strings])).append (hown _ h56 _))
  refine ⟨left, ?_⟩
  rw [testItem_eq, suspended, ← List.singleton_append, ← List.append_assoc]
  refine (partMatches_head h only).append (.append (hown _ hfront _) ?_)
  refine .stepped_cons (.step rfl rfl hstyle (matches_hookCall h hpre)) (hbehind₁.append ?_)
  refine .stepped_cons (.step rfl rfl hstyle hcall) ((hown _ h21 _).append ?_)
  refine .stepped_cons (.step rfl rfl hstyle (matches_fixed htest)) (hbehind₃.append ?_)
  refine .stepped_cons (.step rfl rfl hstyle (matches_fixed hcomponent)) ((hown _ h41 _).append ?_)
  refine .stepped_cons (.step rfl rfl hstyle (matches_hookCall h hpost)) (hbehind₅.append ?_)
  exact .fixed rfl

end Pairs

/-! ### Strings stay literals -/

/-- **No string leaves its literal.**  Whatever a string is and wherever it is written, its text is
one literal with this value, which ends where the text ends; and the text of a list of strings is a
literal for each of them, between brackets and commas.  A suite holds its title, its exports and the
namespaces of its hooks so.  Two tests that differ in strings only have the same words but for the
literals of these strings, if their body ends where its text ends. -/
theorem strings_stay_literals {inputs inputs' : ItemInputs} {entry entry' : PlanEntry}
    (h : SameButStrings inputs inputs' entry entry') (only script : Bool) {m : Marks}
    (hm : m.InCode) (hbody : ∀ f, inputs.body = .inline f →
      ∃ left, StandsAlone script m.slashes left inputs.body.expression.toList) :
    (∀ (n : Marks) (s : String) (rest : List Char),
      nextWord script n ((Json.quote s).toList ++ rest) =
        some (.literal s, { n with newline := false }, rest)) ∧
    (∀ (n : Marks) (strings : List String) (rest : List Char) (ws : List Word), n.InCode →
      HasWords script { n with newline := false } rest ws →
      HasWords script n ((Suite.namesLiteral strings).toList ++ rest)
        (stringsWords strings ++ ws)) ∧
    (∀ module stories items shape options settings,
      let b := Suite.bindings module stories items shape options settings
      eval? b (.var "fallback_title") =
        some (.string (Json.quote (module.baseName ++ " component"))) ∧
      eval? b (.var "namespaces") = some (.string (Suite.namesLiteral options.hookNamespaces)) ∧
      ∃ declared : List (String × String), eval? b (.var "components") =
        some (.array (declared.map fun d =>
          .object [("binding", .string d.1), ("export", .string (Json.quote d.2))]))) ∧
    ∃ (text text' : String) (ws ws' : List Word),
      renderPieces? (bindings inputs entry only) testItem = some text ∧
      renderPieces? (bindings inputs' entry' only) testItem = some text' ∧
      HasWords script m text.toList ws ∧ HasWords script m text'.toList ws' ∧
      List.Forall₂ (Word.Varies (stringPairs inputs inputs' entry entry')) ws ws' := by
  refine ⟨nextWord_quote script,
    fun n strings rest ws hn hrest => hasWords_strings strings hn hrest,
    fun module stories items shape options settings => ⟨rfl, rfl, ?_⟩, ?_⟩
  · obtain ⟨declared, hdeclared, -⟩ := StoryBinding.exists_declared module stories
    refine ⟨declared, ?_⟩
    have hcomponents : eval? (Suite.bindings module stories items shape options settings)
        (.var "components") =
          some (.array ((StoryBinding.declarations module stories).map Suite.componentBinding)) :=
      rfl
    rw [hcomponents, hdeclared, List.map_map]
    rfl
  · obtain ⟨left, text, text', htext, htext', hmatch⟩ := exists_partMatches h only hbody
    have halike := hmatch.inFront .nil
    rw [List.append_nil, List.append_nil] at halike
    obtain ⟨ws, ws', hws, hws', hvary⟩ := halike m hm rfl
    exact ⟨text, text', ws, ws', htext, htext', hws, hws', hvary⟩

/-- A test of the export `A` of a module, made by a function that is given as text. -/
def locatedInputs (path source : String) : ItemInputs where
  module := ⟨⟨path⟩, ⟨path⟩, path, .js⟩
  body := .inline ⟨source, .sync⟩
  activation := none
  arguments := []
  metadata := []

/-- The entry of that test. -/
def locatedEntry (path title : String) : PlanEntry where
  story := ⟨"A"⟩
  title
  data := Plan.mergeData ⟨"A"⟩ path []

theorem sameButStrings_located {path path' : String} (title title' source : String)
    (h : StoryBinding.bindingName? (locatedInputs path source).module ⟨"A"⟩ =
      StoryBinding.bindingName? (locatedInputs path' source).module ⟨"A"⟩) :
    SameButStrings (locatedInputs path source) (locatedInputs path' source)
      (locatedEntry path title) (locatedEntry path' title') :=
  ⟨rfl, rfl, ⟨[], rfl, rfl⟩, h⟩

/-- A path with a quote, the end of a line and the end of a comment in it. -/
def brokenPath : String :=
  "/p/\u2028\"*/\x7d/A.js"

/-- A title that seems to close the test. -/
def closingTitle : String :=
  "\\\"); \x7d); //\n\x60$\x7b"

theorem strings_stay_literals_closing : ∃ (text text' : String) (ws ws' : List Word),
    renderPieces? (bindings (locatedInputs "/p/A.js" "a => a") (locatedEntry "/p/A.js" "A") false)
      testItem = some text ∧
    renderPieces? (bindings (locatedInputs brokenPath "a => a")
      (locatedEntry brokenPath closingTitle) false) testItem = some text' ∧
    HasWords false ⟨[], [], true⟩ text.toList ws ∧
    HasWords false ⟨[], [], true⟩ text'.toList ws' ∧
    List.Forall₂ (Word.Varies (stringPairs (locatedInputs "/p/A.js" "a => a")
      (locatedInputs brokenPath "a => a") (locatedEntry "/p/A.js" "A")
      (locatedEntry brokenPath closingTitle))) ws ws' := by
  have hbinding : StoryBinding.bindingName? (locatedInputs "/p/A.js" "a => a").module ⟨"A"⟩ =
      StoryBinding.bindingName? (locatedInputs brokenPath "a => a").module ⟨"A"⟩ := rfl
  have hspaced : isSpaced 20 "(a => a)".toList = true := by decide +kernel
  exact (strings_stay_literals (sameButStrings_located "A" closingTitle "a => a" hbinding) false
    false (m := ⟨[], [], true⟩) (by simp [Marks.InCode])
    fun f _ => ⟨[], standsAlone_of_isSpaced hspaced⟩).2.2.2

/-- A word of a test, by its number. -/
def wordOf? (inputs : ItemInputs) (entry : PlanEntry) (n : Nat) : Option Word :=
  (characters? (bindings inputs entry false) testItem).bind fun cs =>
    (firstWords false (n + 1) ⟨[], [], true⟩ cs)[n]?

theorem wordOf?_eq {inputs : ItemInputs} {entry : PlanEntry} {text : String} {ws : List Word}
    (htext : renderPieces? (bindings inputs entry false) testItem = some text)
    (hws : HasWords false ⟨[], [], true⟩ text.toList ws) (n : Nat) :
    wordOf? inputs entry n = ws[n]? := by
  rw [renderPieces?_eq_characters] at htext
  obtain ⟨cs, hcs, rfl⟩ := Option.map_eq_some_iff.mp htext
  rw [String.toList_ofList] at hws
  rw [wordOf?, hcs, Option.bind_some, hws.firstWords_eq, List.getElem?_take_of_lt (by omega)]

/-- A function whose text ends in a comment. -/
def trailing : String :=
  "() => 1) // x"

/-- **Strings may leave their literals behind a body that ends in a comment**: such a body is
accepted, its comment goes on over the data, and the end of a line in the path ends it. -/
theorem not_forall_strings_stay_literals :
    ¬ ∀ (inputs inputs' : ItemInputs) (entry entry' : PlanEntry),
      (∀ f, inputs.body = .inline f → InlineFunction.parse f.source = .ok f) →
      SameButStrings inputs inputs' entry entry' →
      ∃ (text text' : String) (ws ws' : List Word),
        renderPieces? (bindings inputs entry false) testItem = some text ∧
        renderPieces? (bindings inputs' entry' false) testItem = some text' ∧
        HasWords false ⟨[], [], true⟩ text.toList ws ∧
        HasWords false ⟨[], [], true⟩ text'.toList ws' ∧
        List.Forall₂ (Word.Varies (stringPairs inputs inputs' entry entry')) ws ws' := by
  intro hall
  have haccepted : InlineFunction.parse trailing = .ok ⟨trailing, .sync⟩ := by decide +kernel
  have hbinding : StoryBinding.bindingName? (locatedInputs "/p/A.js" trailing).module ⟨"A"⟩ =
      StoryBinding.bindingName? (locatedInputs "/p/\u2028/A.js" trailing).module ⟨"A"⟩ := rfl
  obtain ⟨text, text', ws, ws', htext, htext', hws, hws', hvary⟩ := hall _ _ _ _
    (fun f hf => by cases hf; exact haccepted) (sameButStrings_located "A" "A" trailing hbinding)
  -- behind the body the one test goes on in the next line, the other one in the path
  have hone : wordOf? (locatedInputs "/p/A.js" trailing) (locatedEntry "/p/A.js" "A") 62 =
      some (.token (.name "const" false)) := by decide +kernel
  have hother : wordOf? (locatedInputs "/p/\u2028/A.js" trailing)
      (locatedEntry "/p/\u2028/A.js" "A") 62 = some (.sign "/") := by decide +kernel
  rw [wordOf?_eq htext hws] at hone
  rw [wordOf?_eq htext' hws'] at hother
  obtain ⟨hlt, hconst⟩ := List.getElem?_eq_some_iff.mp hone
  obtain ⟨hlt', hslash⟩ := List.getElem?_eq_some_iff.mp hother
  have hpair := hvary.get hlt hlt'
  rw [List.get_eq_getElem, List.get_eq_getElem, hconst, hslash] at hpair
  simp [Word.Varies, Word.sign, Word.literal] at hpair

end Item

end StorySuite
