import StorySuite.BindingName
import StorySuite.Json.Basic
import StorySuite.LogLevel
import StorySuite.Text.Quoted

/-!
# Config — settings of the engine

The settings, their defaults, how they are read from and written as fields, and what makes them
unusable.
-/

namespace StorySuite

/-- Why there is no usable configuration. -/
inductive ConfigError where
  /-- A source of settings cannot be read, or a setting has a wrong name or type. -/
  | load
  /-- The named file does not exist. -/
  | notFound (path : Path)
  /-- A setting's value makes no sense. -/
  | invalidValue (field value hint : String)
  deriving DecidableEq, Repr

namespace ConfigError

/-- What is told of the error, where the words are the library's own. -/
def message? : ConfigError → Option String
  | .load => none
  | .notFound p => some ("Config file not found: " ++ p.text)
  | .invalidValue field value hint =>
    some ("Invalid value for '" ++ field ++ "': " ++ value ++ "\n\nHint: " ++ hint)

/-- The error's code. -/
def code : ConfigError → String
  | .load => "storytest::config::load_failed"
  | .notFound _ => "storytest::config::not_found"
  | .invalidValue .. => "storytest::config::invalid_value"

/-- What may help. -/
def help? : ConfigError → Option String
  | .load => some "check storytest.toml syntax and STORYTEST_* environment variables"
  | _ => none

end ConfigError

/-- The settings of the engine. -/
structure Config where
  /-- The directory that paths and URLs are relative to. -/
  cwd : Option Path := none
  /-- Where packages lie. -/
  dependencyDir : Option Path := none
  /-- The program that runs scripts. -/
  nodeBinary : Path := ⟨"node"⟩
  /-- The properties of a default export that may hold hooks too. -/
  hookNamespaces : List String := ["parameters", "test"]
  /-- Suites take their titles from default exports. -/
  titleFromDefault : Bool := true
  /-- Functions that do nothing stand in for the test framework's in the sandbox. -/
  suiteStubs : Bool := true
  logLevel : LogLevel := .info
  deriving DecidableEq, Repr

namespace Config

open Json

/-- The names of the settings, in the order in which a list gives them. -/
def fieldNames : List String := [
  "cwd", "dependencyDir", "nodeBinary", "hookNamespaces", "titleFromDefault", "suiteStubs",
  "logLevel"]

/-- The value under `name`, read by `read?`; `fallback` where there is none. -/
def fieldOr {α : Type} (fields : DataMap) (name : String) (fallback : α)
    (read? : Value → Option α) : Option α :=
  match fields.get? name with
  | none => some fallback
  | some v => read? v

/-- A path. -/
def path? : Value → Option Path
  | .string s => some ⟨s⟩
  | _ => none

/-- A path that may be missing. -/
def optionalPath? : Value → Option (Option Path)
  | .null => some none
  | v => (path? v).map some

/-- A truth value. -/
def flag? : Value → Option Bool
  | .bool b => some b
  | _ => none

/-- A list of texts. -/
def names? : Value → Option (List String)
  | .array items => items.mapM fun
    | .string s => some s
    | _ => none
  | _ => none

/-- A level by its name, which may stand alone or as an empty field. -/
def level? : Value → Option LogLevel
  | .string s => LogLevel.ofName? s
  | .object [(s, .null)] => LogLevel.ofName? s
  | _ => none

/-- The configuration that `fields` describe; every field has to be a setting's. -/
def ofFields? (fields : DataMap) : Option Config := do
  if fields.any (!fieldNames.contains ·.1) then none
  let d : Config := {}
  pure {
    cwd := ← fieldOr fields "cwd" none optionalPath?
    dependencyDir := ← fieldOr fields "dependencyDir" none optionalPath?
    nodeBinary := ← fieldOr fields "nodeBinary" d.nodeBinary path?
    hookNamespaces := ← fieldOr fields "hookNamespaces" d.hookNamespaces names?
    titleFromDefault := ← fieldOr fields "titleFromDefault" d.titleFromDefault flag?
    suiteStubs := ← fieldOr fields "suiteStubs" d.suiteStubs flag?
    logLevel := ← fieldOr fields "logLevel" d.logLevel level? }

/-- The configuration that a value describes: an object, or a list of the settings in order. -/
def ofValue? : Value → Option Config
  | .object fields => ofFields? fields
  | .array items =>
    if fieldNames.length < items.length then none else ofFields? (fieldNames.zip items)
  | _ => none

/-- The configuration as fields; a path that is not set is left out. -/
def toFields (c : Config) : DataMap :=
  (c.cwd.map fun p => ("cwd", Value.string p.text)).toList ++
  (c.dependencyDir.map fun p => ("dependencyDir", Value.string p.text)).toList ++ [
    ("nodeBinary", .string c.nodeBinary.text),
    ("hookNamespaces", .array (c.hookNamespaces.map .string)),
    ("titleFromDefault", .bool c.titleFromDefault),
    ("suiteStubs", .bool c.suiteStubs),
    ("logLevel", .string c.logLevel.name)]

/-- The first fault of a configuration: a program without a name, or a namespace that is no name. -/
def fault? (c : Config) : Option ConfigError :=
  if c.nodeBinary.text.isEmpty then
    some (.invalidValue "nodeBinary" "" "Provide a Node.js executable name or path")
  else
    (c.hookNamespaces.find? (!BindingName.isIdentifier ·)).map fun namespace' =>
      .invalidValue "hookNamespaces" (Text.displayQuoted namespace')
        "Namespaces are property names such as \"parameters\""

/-- The level of a name in either case, or what is wrong with it. -/
def parseLevel (s : String) : Except ConfigError LogLevel :=
  match LogLevel.parse? s with
  | some l => .ok l
  | none => .error (.invalidValue "logLevel" (Text.displayQuoted s)
      ("Use one of " ++ ", ".intercalate (LogLevel.all.map LogLevel.name)))

/-- Where packages lie, seen from `cwd`. -/
def dependencyDirFrom (c : Config) (cwd : Path) : Path :=
  cwd.join (c.dependencyDir.getD ⟨"node_modules"⟩)

end Config

end StorySuite
