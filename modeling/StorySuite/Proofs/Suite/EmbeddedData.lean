import StorySuite.Proofs.Json.Fields
import StorySuite.Proofs.Json.Meaning
import StorySuite.Proofs.Template.Renders
import StorySuite.Proofs.Template.Texts

/-!
# Proofs — Suite — the data in generated code

A test holds the data that its function and its hooks are given, and a suite holds the values of its
settings, all of them written out.  There they are expressions, and these come to what the data
says, unless an object has the key under which programs set what an object inherits from.

* `item_holds`, `suite_holds`: where the data stands.
* **`embeddedData_keepsMeaning_iff`**: what it comes to.
-/

namespace StorySuite

open Template Json Script

/-! ### Where the data stands -/

/-- The text has the part in it. -/
def HasPart (text part : String) : Prop :=
  ∃ before after, text = before ++ (part ++ after)

namespace Template

/-- A run of pieces is in the template. -/
def HasRun (pieces r : List TemplatePiece) : Prop :=
  ∃ before after, pieces = before ++ (r ++ after)

/-- The text of a template has the text of every run of its pieces in it. -/
theorem HasRun.hasPart {b : Bindings} {pieces r : List TemplatePiece} (h : HasRun pieces r)
    {text s : String} (htext : renderPieces? b pieces = some text)
    (hs : renderPieces? b r = some s) : HasPart text s := by
  obtain ⟨before, after, rfl⟩ := h
  obtain ⟨front, back, -, -, rfl⟩ := renderPieces?_between htext hs
  exact ⟨front, back, rfl⟩

end Template

namespace Item

variable (inputs : ItemInputs) (entry : PlanEntry) (only : Bool)

/-- A step of the test as it is written. -/
def step (s : String) : String :=
  awaited (inputs.body.style == .async) s

/-- What the function that makes the test is given, as data. -/
def contextData : Value :=
  .object (context inputs entry)

/-- What the hooks are given, as data. -/
def hookData : Value :=
  .object (hookContext inputs entry)

theorem isAsync_bindings :
    isAsync (bindings inputs entry only) = (inputs.body.style == .async) := by
  cases h : inputs.body.style <;> simp [isAsync, bindings, DataMap.get?, h, Suspension.name]

/-- A test calls the function that makes it with its data, and both of its hooks with theirs. -/
theorem item_holds :
    ∃ text, renderPieces? (bindings inputs entry only) testItem = some text ∧
      HasPart text (step inputs
        (inputs.body.expression ++ "(" ++ (contextData inputs entry).text ++ ")")) ∧
      HasPart text (step inputs
        ("storyHooks.preRender.call(this, " ++ (hookData inputs entry).text ++ ")")) ∧
      HasPart text (step inputs
        ("storyHooks.postRender.call(this, " ++ (hookData inputs entry).text ++ ")")) := by
  obtain ⟨text, h⟩ := Option.isSome_iff_exists.mp (renderPieces?_isSome _ _
    (supplied_testItem inputs entry only))
  have hstep {e : TemplateExpr} {s : String} (hrun : HasRun testItem [.put (.step e)])
      (he : eval? (bindings inputs entry only) e = some (.string s)) :
      HasPart text (step inputs s) := by
    refine hrun.hasPart h ?_
    rw [renderPieces?_step he, isAsync_bindings, step]
  refine ⟨text, h, ?_, ?_, ?_⟩
  · refine hstep (e := .concat (.concat (.concat (.var "create_test") (.text "(")) (.var "context"))
      (.text ")")) ⟨testItem.take 20, testItem.drop 21, rfl⟩ ?_
    simp [eval?, bindings, DataMap.get?, shown, contextData]
  · refine hstep (e := .concat (.concat (.text "storyHooks.preRender.call(this, ")
      (.var "hook_context")) (.text ")")) ⟨testItem.take 10, testItem.drop 11, rfl⟩ ?_
    simp [eval?, bindings, DataMap.get?, shown, hookData]
  · refine hstep (e := .concat (.concat (.text "storyHooks.postRender.call(this, ")
      (.var "hook_context")) (.text ")")) ⟨testItem.take 51, testItem.drop 52, rfl⟩ ?_
    simp [eval?, bindings, DataMap.get?, shown, hookData]

/-- What a test's function is given has a key twice only where its data has. -/
theorem distinct_contextData (h : (Value.object entry.data).Distinct) :
    (contextData inputs entry).Distinct := by
  refine ⟨by simp [context, DataMap.keys], ?_⟩
  simp only [FieldsDistinct, context, and_true]
  exact ⟨h, trivial, trivial, trivial⟩

/-- The keys in what a test's function is given, beside those of its data, are fixed. -/
theorem parentKey_mem_contextData :
    parentKey ∈ (contextData inputs entry).keys ↔ parentKey ∈ (Value.object entry.data).keys := by
  simp [contextData, context, Value.keys, fieldKeys, parentKey]

end Item

namespace Json

/-- Putting a field into a map makes no key stand twice. -/
theorem distinct_insert {m : DataMap} (hm : (Value.object m).Distinct) (key : String) {v : Value}
    (hv : v.Distinct) : (Value.object (m.insert key v)).Distinct := by
  obtain ⟨hkeys, hfields⟩ := hm
  refine ⟨DataMap.nodup_keys_insert hkeys key v, ?_⟩
  clear hkeys
  induction m with
  | nil => exact ⟨hv, trivial⟩
  | cons f rest ih =>
      obtain ⟨k, w⟩ := f
      obtain ⟨hw, hrest⟩ := hfields
      simp only [DataMap.insert]
      split_ifs
      · exact ⟨hv, hrest⟩
      · exact ⟨hw, ih hrest⟩

end Json

namespace Item

variable (inputs : ItemInputs) (entry : PlanEntry)

theorem distinct_hookData (h : (Value.object inputs.metadata).Distinct) :
    (hookData inputs entry).Distinct :=
  distinct_insert (distinct_insert h "name" (v := .string _) trivial) "title" (v := .string _)
    trivial

end Item

namespace Suite

/-- The line that assigns a setting. -/
def settingLine (field : String × Value) : String :=
  "  this." ++ field.1 ++ " = " ++ field.2.text ++ ";\n"

/-- A suite assigns its settings one after the other. -/
theorem suite_holds (module : ModuleReference) (stories : List ExportName) (items : List String)
    (shape : Option DefaultShape) (options : SuiteOptions) (settings : DataMap) :
    ∃ text, renderPieces? (bindings module stories items shape options
        (settings.map settingBinding)) suite = some text ∧
      HasPart text (String.join (settings.map settingLine)) := by
  obtain ⟨text, h⟩ := Option.isSome_iff_exists.mp (renderPieces?_isSome _ _
    (supplied_suite module stories items shape options settings))
  refine ⟨text, h, ?_⟩
  have hrun : HasRun suite [.each "setting" (.var "settings") none [
      .text "  this.",
      .put (.field (.var "setting") "key"),
      .text " = ",
      .put (.field (.var "setting") "value"),
      .text ";\n"]] := ⟨suite.take 4, suite.drop 5, rfl⟩
  refine hrun.hasPart h ?_
  have hitems : eval? (bindings module stories items shape options (settings.map settingBinding))
      (.var "settings") = some (.array (settings.map settingBinding)) := by
    simp [eval?, bindings, DataMap.get?]
  refine renderPieces?_each hitems fun field _ => ?_
  simp [renderPieces?, renderPiece?, eval?, DataMap.get?, Json.Value.field?, shown, settingBinding,
    settingLine, String.append_assoc]

end Suite

/-! ### What the data comes to -/

/-- Written out in a program, the value is one expression.  This comes to a value, and to what the
data says exactly under the condition. -/
structure KeepsMeaningIff (v : Value) (condition : Prop) : Prop where
  reads : Parser.ReadsAs v.text.toList v.expr
  comes : ∃ d, v.expr.datum? = some d ∧ (d = v.meaning ↔ condition)

theorem keepsMeaningIff {v : Value} (h : v.Distinct) : KeepsMeaningIff v (parentKey ∉ v.keys) :=
  ⟨Parser.readsAs_value v, datum_eq_meaning_iff h⟩

/-- **The data in generated code means what it says, exactly when no object in it has the key
`__proto__`.**  A test calls the function that makes it, and its hooks, with the data written out,
and a suite assigns its settings written out.  Each of these is one expression, and it comes to an
object with exactly the fields of the data as its properties and with the ordinary parent, and so on
through all that the data holds, unless an object in the data has that key. -/
theorem embeddedData_keepsMeaning_iff (inputs : ItemInputs) (entry : PlanEntry) (only : Bool)
    (options : SuiteOptions) (hdata : (Value.object entry.data).Distinct)
    (hmetadata : (Value.object inputs.metadata).Distinct)
    (hsettings : ∀ field ∈ options.settings, field.2.Distinct) :
    (∃ text, renderPieces? (Item.bindings inputs entry only) testItem = some text ∧
      HasPart text (Item.step inputs
        (inputs.body.expression ++ "(" ++ (Item.contextData inputs entry).text ++ ")")) ∧
      HasPart text (Item.step inputs
        ("storyHooks.preRender.call(this, " ++ (Item.hookData inputs entry).text ++ ")")) ∧
      HasPart text (Item.step inputs
        ("storyHooks.postRender.call(this, " ++ (Item.hookData inputs entry).text ++ ")"))) ∧
    KeepsMeaningIff (Item.contextData inputs entry)
      (parentKey ∉ (Value.object entry.data).keys) ∧
    KeepsMeaningIff (Item.hookData inputs entry) (parentKey ∉ (Item.hookData inputs entry).keys) ∧
    (∀ module stories items shape, ∃ text,
      renderPieces? (Suite.bindings module stories items shape options
          (options.settings.map Suite.settingBinding)) suite = some text ∧
        HasPart text (String.join (options.settings.map Suite.settingLine))) ∧
    (∀ field ∈ options.settings, KeepsMeaningIff field.2 (parentKey ∉ field.2.keys)) := by
  refine ⟨Item.item_holds inputs entry only, ?_,
    keepsMeaningIff (Item.distinct_hookData inputs entry hmetadata),
    fun module stories items shape =>
      Suite.suite_holds module stories items shape options options.settings,
    fun field hfield => keepsMeaningIff (hsettings field hfield)⟩
  rw [← Item.parentKey_mem_contextData inputs entry]
  exact keepsMeaningIff (Item.distinct_contextData inputs entry hdata)

/-- A test with nested data and metadata, whose function another module exports. -/
def themedInputs : ItemInputs :=
  { module := ⟨⟨"/p/A.js"⟩, ⟨"/p/A.storytest.js"⟩, "/A.js", .js⟩
    body := .reference "m" "n" .async
    activation := none
    arguments := []
    metadata := [("tags", .array [.string "slow", .null])] }

/-- The entry of that test: `{"theme":{"dark":true,"scale":-2}}`. -/
def themedEntry : PlanEntry :=
  { story := ⟨"A"⟩
    title := "A"
    data := [("theme", .object [("dark", .bool true), ("scale", .number (.whole (-2)))])] }

/-- A suite with one setting. -/
def timedOptions : SuiteOptions :=
  { hookNamespaces := [], titleFromDefault := true,
    settings := [("timeouts", .object [("page", .number (.whole 5))])] }

/-- What the function of the themed test is given comes to what it says. -/
theorem themed_keepsMeaning :
    (Value.object themedEntry.data).Distinct ∧ (Value.object themedInputs.metadata).Distinct ∧
      (∀ field ∈ timedOptions.settings, field.2.Distinct) ∧
      ∃ d, (Item.contextData themedInputs themedEntry).expr.datum? = some d ∧
        d = (Item.contextData themedInputs themedEntry).meaning := by
  have hdata : (Value.object themedEntry.data).Distinct := by
    simp [themedEntry, Value.Distinct, FieldsDistinct, DataMap.keys]
  have hmetadata : (Value.object themedInputs.metadata).Distinct := by
    simp [themedInputs, Value.Distinct, FieldsDistinct, ItemsDistinct, DataMap.keys]
  have hsettings : ∀ field ∈ timedOptions.settings, field.2.Distinct := by
    simp [timedOptions, Value.Distinct, FieldsDistinct, DataMap.keys]
  have h := embeddedData_keepsMeaning_iff themedInputs themedEntry true timedOptions hdata hmetadata
    hsettings
  obtain ⟨d, hd, hmeans⟩ := h.2.1.comes
  have hkeys : parentKey ∉ (Value.object themedEntry.data).keys := by decide
  exact ⟨hdata, hmetadata, hsettings, d, hd, hmeans.mpr hkeys⟩

/-- The entry of a test with the data `{"__proto__":1}`. -/
def orphanedEntry : PlanEntry :=
  { story := ⟨"A"⟩, title := "A", data := [("__proto__", .number (.whole 1))] }

/-- **Not all data means what it says**: the field of `{"__proto__":1}` is lost. -/
theorem not_forall_embeddedData_keepsMeaning :
    ¬ ∀ (inputs : ItemInputs) (entry : PlanEntry), (Value.object entry.data).Distinct →
      (Value.object inputs.metadata).Distinct →
      (Item.contextData inputs entry).expr.datum? =
        some (Item.contextData inputs entry).meaning := by
  intro hall
  have hdata : (Value.object orphanedEntry.data).Distinct := by
    simp [orphanedEntry, Value.Distinct, FieldsDistinct, DataMap.keys]
  have hmetadata : (Value.object themedInputs.metadata).Distinct := by
    simp [themedInputs, Value.Distinct, FieldsDistinct, ItemsDistinct, DataMap.keys]
  have hmeans := hall themedInputs orphanedEntry hdata hmetadata
  obtain ⟨d, hd, hiff⟩ :=
    datum_eq_meaning_iff (Item.distinct_contextData themedInputs orphanedEntry hdata)
  have hkeys : parentKey ∈ (Item.contextData themedInputs orphanedEntry).keys :=
    (Item.parentKey_mem_contextData themedInputs orphanedEntry).mpr (by decide)
  exact hiff.mp (Option.some.inj (hd.symm.trans hmeans)) hkeys

end StorySuite
