/-!
# Hooks — what a default export may bring to a suite

A default export can hold functions that run before and after the tests of its module and around
each rendering.  A suite has six places for them; two of the places take a hook under either of two
names.
-/

namespace StorySuite

/-- A hook, by the property that holds it. -/
inductive Hook where
  | before
  | beforeEach
  | afterEach
  | after
  | setup
  | teardown
  | preRender
  | postRender
  deriving DecidableEq, Repr

namespace Hook

/-- Every hook, in the order in which they are listed. -/
def all : List Hook :=
  [.before, .beforeEach, .afterEach, .after, .setup, .teardown, .preRender, .postRender]

/-- The property that holds the hook. -/
def name : Hook → String
  | .before => "before"
  | .beforeEach => "beforeEach"
  | .afterEach => "afterEach"
  | .after => "after"
  | .setup => "setup"
  | .teardown => "teardown"
  | .preRender => "preRender"
  | .postRender => "postRender"

/-- The hook that a property holds, if it is a hook's. -/
def ofName? (s : String) : Option Hook :=
  all.find? (·.name == s)

end Hook

/-- A set of hooks. -/
structure HookSet where
  marked : List Hook := []
  deriving Repr

namespace HookSet

/-- No hook. -/
def empty : HookSet := {}

/-- The hook is in the set. -/
def contains (hs : HookSet) (h : Hook) : Bool :=
  hs.marked.contains h

/-- The set with the hook of the property `s` in it; a property that is no hook's changes nothing.
-/
def mark (hs : HookSet) (s : String) : HookSet :=
  match Hook.ofName? s with
  | some h => if hs.contains h then hs else ⟨h :: hs.marked⟩
  | none => hs

/-- The hooks of the set, in the order in which hooks are listed. -/
def toList (hs : HookSet) : List Hook :=
  Hook.all.filter hs.contains

/-- The set holds no hook. -/
def isEmpty (hs : HookSet) : Bool :=
  hs.toList.isEmpty

end HookSet

/-- What can be said of a module's default export without running the module. -/
inductive DefaultShape where
  /-- There is none. -/
  | absent
  /-- There is one, and what it holds is known only when the module runs. -/
  | unknown
  /-- It is an object whose hooks are these. -/
  | literal (hooks : HookSet)

/-- A place for a hook in a suite. -/
inductive HookSlot where
  | before
  | beforeEach
  | afterEach
  | after
  | preRender
  | postRender
  deriving DecidableEq, Repr

namespace HookSlot

/-- Every place, in the order in which a suite fills them. -/
def all : List HookSlot :=
  [.before, .beforeEach, .afterEach, .after, .preRender, .postRender]

/-- The place's name; for a place bound through the test framework, also the name of the framework's
function. -/
def name : HookSlot → String
  | .before => "before"
  | .beforeEach => "beforeEach"
  | .afterEach => "afterEach"
  | .after => "after"
  | .preRender => "preRender"
  | .postRender => "postRender"

/-- The hooks that can fill the place, the first one found being taken. -/
def hooks : HookSlot → List Hook
  | .before => [.before, .setup]
  | .beforeEach => [.beforeEach]
  | .afterEach => [.afterEach]
  | .after => [.after, .teardown]
  | .preRender => [.preRender]
  | .postRender => [.postRender]

/-- The place is bound through the test framework's function of its name. -/
def isLifecycle : HookSlot → Bool
  | .preRender | .postRender => false
  | _ => true

/-- One of the place's hooks is in the set. -/
def filledBy (slot : HookSlot) (hs : HookSet) : Bool :=
  slot.hooks.any hs.contains

/-- The places worth wiring for a default export of the given shape; none when the export could not
be looked at. -/
def wired : Option DefaultShape → List HookSlot
  | none | some .absent => []
  | some .unknown => all
  | some (.literal hs) => all.filter (·.filledBy hs)

end HookSlot

end StorySuite
