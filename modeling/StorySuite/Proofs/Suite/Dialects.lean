import StorySuite.InlineFunction
import StorySuite.Proofs.Suite.Bindings
import StorySuite.Script.Requires
import StorySuite.Synthesis.Recombine

/-!
# Proofs — Suite — one text in all dialects

The compiled text of a module and its suite are read together, in the dialect of the module, although
both are plain scripts and a test body in the suite is accepted as one.  A dialect with types reads
some plain scripts otherwise.

* `not_forall_readsAlike`: what is read is not the same in all dialects.
-/

namespace StorySuite

open Script Template

/-- A compiled module, and a suite of tests that a function given as text makes. -/
structure Recombination where
  compiled : String
  inputs : ItemInputs
  /-- The tests, with those marked that run alone. -/
  tests : List (PlanEntry × Bool)
  shape : Option DefaultShape
  options : SuiteOptions

namespace Recombination

/-- The texts of the tests. -/
def items? (r : Recombination) : Option (List String) :=
  r.tests.mapM fun t => renderPieces? (Item.bindings r.inputs t.1 t.2) testItem

/-- The bindings of the suite, around the texts of the tests. -/
def bindings? (r : Recombination) (items : List String) : Option Bindings :=
  (Suite.settingBindings r.options.settings).toOption.map
    (Suite.bindings r.inputs.module (r.tests.map fun t => t.1.story) items r.shape r.options)

/-- The text that is put into one form. -/
def text? (r : Recombination) : Option String := do
  let b ← r.bindings? (← r.items?)
  let suite ← renderPieces? b Template.suite
  pure (Synthesis.joinTexts r.compiled suite)

/-- The compiled text is a plain script, and the tests are made by a function that is accepted. -/
structure IsPlain (r : Recombination) : Prop where
  compiled : (Program.parse? { dialect := .js, isModule := false } r.compiled).isSome = true
  body : ∃ source f, InlineFunction.parse source = .ok f ∧ r.inputs.body = .inline f

/-- All dialects read the same program. -/
def ReadsAlike (r : Recombination) : Prop :=
  ∀ text, r.text? = some text → ∀ dialect,
    Program.parse? { dialect, isModule := false } text =
      Program.parse? { dialect := .js, isModule := false } text

/-! ### The characters of a text with one test -/

/-- The pieces of a suite in front of its tests. -/
def suiteFront : List TemplatePiece :=
  Template.suite.dropLast.dropLast

/-- The characters of a text with one test behind an empty module and without settings. -/
def oneCharacters? (inputs : ItemInputs) (test : PlanEntry) (shape : Option DefaultShape)
    (options : SuiteOptions) : Option (List Char) := do
  let item ← characters? (Item.bindings inputs test false) testItem
  let front ← characters?
    (Suite.bindings inputs.module [test.story] [String.ofList item] shape options []) suiteFront
  pure ('\n' :: (front ++ '\n' :: (item ++ "\n\x7d);\n".toList)))

/-- The text of a suite with one test. -/
theorem renderPieces?_suite {b : Bindings} {front item : String}
    (hfront : renderPieces? b suiteFront = some front)
    (hitems : DataMap.get? b "items" = some (.array [.string item])) :
    renderPieces? b Template.suite = some (front ++ ("\n" ++ item ++ "\n" ++ "\x7d);")) := by
  have hsuite : Template.suite = suiteFront ++
      ([.each "item" (.var "items") none [.text "\n", .put (.var "item"), .text "\n"]] ++
        [.text "\x7d);"]) := rfl
  have hvalues : eval? b (.var "items") = some (.array ([item].map Json.Value.string)) := hitems
  have hline : ∀ s ∈ [item], renderPieces? (("item", .string s) :: b)
      [.text "\n", .put (.var "item"), .text "\n"] = some ("\n" ++ s ++ "\n") := by
    intro s _
    simp [renderPieces?, renderPiece?, eval?, DataMap.get?, shown, String.append_assoc]
  rw [hsuite, renderPieces?_append, renderPieces?_append, hfront, renderPieces?_each hvalues hline]
  simp [renderPieces?, renderPiece?, String.append_assoc]

theorem text?_of_one {r : Recombination} {test : PlanEntry} {cs : List Char}
    (hcompiled : r.compiled = "") (htests : r.tests = [(test, false)])
    (hsettings : r.options.settings = [])
    (h : oneCharacters? r.inputs test r.shape r.options = some cs) :
    r.text? = some (String.ofList cs) := by
  simp only [oneCharacters?, Option.bind_eq_bind, Option.bind_eq_some_iff, Option.pure_def,
    Option.some.injEq] at h
  obtain ⟨item, hitem, front, hfront, rfl⟩ := h
  have hitems : r.items? = some [String.ofList item] := by
    simp [items?, htests, renderPieces?_eq_characters, hitem]
  have hbindings : r.bindings? [String.ofList item] =
      some (Suite.bindings r.inputs.module [test.story] [String.ofList item] r.shape r.options
        []) := by
    simp [bindings?, htests, hsettings, Suite.settingBindings, Except.toOption]
  have hone : DataMap.get? (Suite.bindings r.inputs.module [test.story] [String.ofList item] r.shape
      r.options []) "items" = some (.array [.string (String.ofList item)]) := rfl
  have hsuite := renderPieces?_suite
    (by rw [renderPieces?_eq_characters, hfront, Option.map_some]) hone
  simp [text?, hitems, hbindings, hsuite, hcompiled, Synthesis.joinTexts, ← String.toList_inj]

/-! ### A comparison that types make a call -/

/-- A function that compares and calls nothing; where there are types, it calls `require`. -/
def comparing : InlineFunction :=
  { source := "(a) => require<a>(\"q\")", style := .sync }

/-- The test that `comparing` makes. -/
def comparedTest : PlanEntry :=
  { story := ⟨"A"⟩, title := "A", data := [] }

/-- A suite of one test, which `comparing` makes, behind an empty module. -/
def compared : Recombination where
  compiled := ""
  inputs :=
    { module := blankModule, body := .inline comparing, activation := none, arguments := [],
      metadata := [] }
  tests := [(comparedTest, false)]
  shape := some .absent
  options := { hookNamespaces := [], titleFromDefault := false, settings := [] }

/-- What the text of `compared` requires, in a dialect. -/
def comparedRequires? (dialect : Dialect) : Option (List String) := do
  let cs ← oneCharacters? compared.inputs comparedTest compared.shape compared.options
  let p ← Program.read? { dialect, isModule := false } cs
  pure p.requires

theorem comparedRequires?_js : comparedRequires? .js = some [] := by
  decide +kernel

theorem comparedRequires?_ts : comparedRequires? .ts = some ["q"] := by
  decide +kernel

theorem isPlain_compared : compared.IsPlain where
  compiled := by decide +kernel
  body := ⟨comparing.source, comparing, by decide +kernel, rfl⟩

/-- **Not all dialects read the same**: what `comparing` compares is called where there are types. -/
theorem not_forall_readsAlike : ¬ ∀ r : Recombination, r.IsPlain → r.ReadsAlike := by
  intro hall
  have hjs := comparedRequires?_js
  have hts := comparedRequires?_ts
  simp only [comparedRequires?, Option.bind_eq_bind, Option.bind_eq_some_iff, Option.pure_def,
    Option.some.injEq] at hjs hts
  obtain ⟨cs, hcs, p, hp, hrequires⟩ := hjs
  obtain ⟨cs', hcs', p', hp', hrequires'⟩ := hts
  cases hcs.symm.trans hcs'
  have halike := hall compared isPlain_compared _ (text?_of_one rfl rfl rfl hcs) .ts
  rw [Program.parse?_ofList, Program.parse?_ofList, hp, hp'] at halike
  cases halike
  exact absurd (hrequires.symm.trans hrequires') (by decide)

end Recombination

end StorySuite
