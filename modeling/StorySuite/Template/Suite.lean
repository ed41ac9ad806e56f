import StorySuite.Template.Basic

/-!
# Template — the text of a suite and of a test

The two texts that are generated.  Values that end up as literals are bound as literals, so the
templates only place them.
-/

namespace StorySuite.Template

/-- The text of one test: the hooks around it, the function that makes it, the component it is about
and that component's own test. -/
def testItem : List TemplatePiece := [
  .text "it",
  .choice (.var "only") [
    .text ".only"] [],
  .text "(",
  .put (.var "title"),
  .text ", ",
  .choice (.equals (.var "suspension") (.text "async")) [
    .text "async "] [],
  .text "function (browser) \x7b\n",
  .text "  if (storyHooks.preRender) \x7b\n",
  .text "    try \x7b\n",
  .text "      ",
  .put (.step
    (.concat
      (.concat (.text "storyHooks.preRender.call(this, ") (.var "hook_context"))
      (.text ")"))),
  .text ";\n",
  .text "    \x7d catch (err) \x7b\n",
  .text "      throw augmentHookError(err, ",
  .put (.var "pre_render_message"),
  .text ");\n",
  .text "    \x7d\n",
  .text "  \x7d\n",
  .text "\n",
  .text "  const test = ",
  .put (.step
    (.concat (.concat (.concat (.var "create_test") (.text "(")) (.var "context")) (.text ")"))),
  .text ";\n",
  .text "  const result = ",
  .put (.step (.text "test(browser)")),
  .text ";\n",
  .text "  const data = result === null || result === undefined ? \x7b\x7d : result;\n",
  .text "\n",
  .text "  if (data.preRenderError) \x7b\n",
  .text "    console.error(data.preRenderError);\n",
  .text "  \x7d\n",
  .text "\n",
  .text "  const component = ",
  .put (.var "component"),
  .text ";\n",
  .text "  let outcome;\n",
  .text "  if (component && typeof component.test === \"function\") \x7b\n",
  .text "    if (data.component instanceof Error) \x7b\n",
  .text "      throw data.component;\n",
  .text "    \x7d\n",
  .text "    outcome = ",
  .put (.step (.text "component.test(browser, data)")),
  .text ";\n",
  .text "  \x7d\n",
  .text "\n",
  .text "  if (data.postRenderError) \x7b\n",
  .text "    console.error(data.postRenderError);\n",
  .text "  \x7d\n",
  .text "\n",
  .text "  if (storyHooks.postRender) \x7b\n",
  .text "    try \x7b\n",
  .text "      ",
  .put (.step
    (.concat
      (.concat (.text "storyHooks.postRender.call(this, ") (.var "hook_context"))
      (.text ")"))),
  .text ";\n",
  .text "    \x7d catch (err) \x7b\n",
  .text "      throw augmentHookError(err, ",
  .put (.var "post_render_message"),
  .text ");\n",
  .text "    \x7d\n",
  .text "  \x7d\n",
  .text "\n",
  .text "  return outcome;\n",
  .text "\x7d);"]

/-- The text of a suite: its title, the components it is about, its settings, its hooks and its
tests. -/
def suite : List TemplatePiece := [
  .text "describe(",
  .choice (.var "title_from_default") [
    .text "(function () \x7b\n",
    .text "  try \x7b\n",
    .text "    const componentDefault = module.exports[\"default\"];\n",
    .text "    if (componentDefault && componentDefault.title) \x7b\n",
    .text "      return componentDefault.title;\n",
    .text "    \x7d\n",
    .text "  \x7d catch (err) \x7b\n",
    .text "    console.error(\"Error:\", err);\n",
    .text "  \x7d\n",
    .text "  return ",
    .put (.var "fallback_title"),
    .text ";\n",
    .text "\x7d)()"] [
    .put (.var "fallback_title")],
  .text ", function () \x7b\n",
  .each "component" (.var "components") none [
    .text "  const ",
    .put (.field (.var "component") "binding"),
    .text " = module.exports[",
    .put (.field (.var "component") "export"),
    .text "];\n"],
  .each "setting" (.var "settings") none [
    .text "  this.",
    .put (.field (.var "setting") "key"),
    .text " = ",
    .put (.field (.var "setting") "value"),
    .text ";\n"],
  .text "\n",
  .text "  function augmentHookError(err, message) \x7b\n",
  .text "    const augmented = new Error(message);\n",
  .text "    const originalStack = err && err.stack ? err.stack : String(err);\n",
  .text "    augmented.detailedErr = originalStack;\n",
  .text "    augmented.stack = message + \"\\n\" + originalStack;\n",
  .text "    return augmented;\n",
  .text "  \x7d\n",
  .text "\n",
  .text "  let storyHooks = \x7b\x7d;\n",
  .choice (.var "hooks") [
    .text "\n",
    .text "  function resolveStoryHook(source, names) \x7b\n",
    .text "    const namespaces = ",
    .put (.var "namespaces"),
    .text ";\n",
    .text "    for (let i = 0; i < namespaces.length; i++) \x7b\n",
    .text "      const scope = source[namespaces[i]];\n",
    .text "      if (scope) \x7b\n",
    .text "        for (let j = 0; j < names.length; j++) \x7b\n",
    .text "          if (typeof scope[names[j]] === \"function\") \x7b\n",
    .text "            return scope[names[j]];\n",
    .text "          \x7d\n",
    .text "        \x7d\n",
    .text "      \x7d\n",
    .text "    \x7d\n",
    .text "    for (let j = 0; j < names.length; j++) \x7b\n",
    .text "      if (typeof source[names[j]] === \"function\") \x7b\n",
    .text "        return source[names[j]];\n",
    .text "      \x7d\n",
    .text "    \x7d\n",
    .text "    return undefined;\n",
    .text "  \x7d\n",
    .text "\n",
    .text "  try \x7b\n",
    .text "    const componentDefault = module.exports[\"default\"];\n",
    .text "    const resolved = \x7b\x7d;\n",
    .each "hook" (.var "hooks") none [
      .text "    resolved.",
      .put (.field (.var "hook") "slot"),
      .text " = resolveStoryHook(componentDefault, ",
      .put (.field (.var "hook") "names"),
      .text ");\n"],
    .each "hook" (.var "hooks") (some (.field (.var "hook") "lifecycle")) [
      .text "    if (resolved.",
      .put (.field (.var "hook") "slot"),
      .text ") \x7b\n",
      .text "      const ",
      .put (.field (.var "hook") "slot"),
      .text "Hook = resolved.",
      .put (.field (.var "hook") "slot"),
      .text ";\n",
      .text "      ",
      .put (.field (.var "hook") "slot"),
      .text "(function () \x7b\n",
      .text "        try \x7b\n",
      .text "          const pending = ",
      .put (.field (.var "hook") "slot"),
      .text "Hook.apply(this, arguments);\n",
      .text "          if (pending && typeof pending.then === \"function\") \x7b\n",
      .text "            return pending.then(undefined, function (err) \x7b\n",
      .text "              throw augmentHookError(err, ",
      .put (.field (.var "hook") "message"),
      .text ");\n",
      .text "            \x7d);\n",
      .text "          \x7d\n",
      .text "          return pending;\n",
      .text "        \x7d catch (err) \x7b\n",
      .text "          throw augmentHookError(err, ",
      .put (.field (.var "hook") "message"),
      .text ");\n",
      .text "        \x7d\n",
      .text "      \x7d);\n",
      .text "    \x7d\n"],
    .text "    storyHooks = resolved;\n",
    .text "  \x7d catch (err) \x7b\n",
    .text "    console.error(\"Error:\", err);\n",
    .text "  \x7d\n"] [],
  .each "item" (.var "items") none [
    .text "\n",
    .put (.var "item"),
    .text "\n"],
  .text "\x7d);"]

end StorySuite.Template
