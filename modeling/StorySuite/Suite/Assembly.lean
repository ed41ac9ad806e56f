import StorySuite.Suite.Item

/-!
# Suite — all tests of a module

The text of a suite around the texts of its tests.  The title and the hooks are read off the default
export when the suite runs, guarded, so that a default export that is no good costs the suite its
title and hooks and nothing else.
-/

namespace StorySuite

/-- How a suite is put together. -/
structure SuiteOptions where
  /-- The properties of the default export that may hold hooks too, the first one first. -/
  hookNamespaces : List String
  /-- The default export's title, where it has one, is the suite's. -/
  titleFromDefault : Bool
  /-- Assigned to the suite's context. -/
  settings : DataMap

namespace Suite

/-- A setting's key is a path of names. -/
def isSettingKey (key : String) : Bool :=
  !key.isEmpty && (Text.splitAt '.' key).all BindingName.isIdentifier

/-- The bindings of the settings, or the first key that is no path of names. -/
def settingBindings : DataMap → Except SynthesisError (List Json.Value)
  | [] => .ok []
  | (key, value) :: rest =>
    if isSettingKey key then do
      let more ← settingBindings rest
      pure (.object [("key", .string key), ("value", .string value.text)] :: more)
    else .error (.invalidSetting key)

/-- A list of names as a literal. -/
def namesLiteral (names : List String) : String :=
  Json.Value.text (.array (names.map .string))

/-- The bindings of one hook slot. -/
def hookBinding (slot : HookSlot) : Json.Value :=
  .object [
    ("slot", .string slot.name),
    ("names", .string (namesLiteral (slot.hooks.map Hook.name))),
    ("lifecycle", .bool slot.isLifecycle),
    ("message", .string (Json.quote (slot.name ++ " hook threw an error:")))]

/-- The bindings of a declared export. -/
def componentBinding (d : StoryBinding.Declaration) : Json.Value :=
  .object [("binding", .string d.name), ("export", .string d.exported)]

/-- The bindings of a suite's text. -/
def bindings (module : ModuleReference) (stories : List ExportName) (items : List String)
    (shape : Option DefaultShape) (options : SuiteOptions) (settings : List Json.Value) :
    Template.Bindings := [
  ("fallback_title", .string (Json.quote (module.baseName ++ " component"))),
  ("title_from_default", .bool options.titleFromDefault),
  ("components", .array ((StoryBinding.declarations module stories).map componentBinding)),
  ("settings", .array settings),
  ("namespaces", .string (namesLiteral options.hookNamespaces)),
  ("hooks", .array ((HookSlot.wired shape).map hookBinding)),
  ("items", .array (items.map .string))]

/-- The suite for `stories` around the texts of their tests, put together by a renderer.  `shape` is
what is known of the default export, none when it could not be looked at. -/
def assembleWith (renderer : Renderer) (module : ModuleReference) (stories : List ExportName)
    (items : List String) (shape : Option DefaultShape) (options : SuiteOptions) :
    Run SynthesisError String := do
  let settings ← Run.ofExcept id (settingBindings options.settings)
  Run.ofReport id
    (renderer.render .suite (bindings module stories items shape options settings))

/-- The suite for `stories` around the texts of their tests. -/
def assemble (module : ModuleReference) (stories : List ExportName) (items : List String)
    (shape : Option DefaultShape) (options : SuiteOptions) : Run SynthesisError String :=
  assembleWith .templates module stories items shape options

end Suite

end StorySuite
