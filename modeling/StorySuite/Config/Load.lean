import StorySuite.Config.Assignments
import StorySuite.Config.Environment
import StorySuite.Json.Parser
import StorySuite.Source.Disk

/-!
# Config — settings in layers

The settings of the environment stand above those of a file, and those above the defaults.  The file
is the one that is named, or the one with the usual name where there is one.
-/

namespace StorySuite.Config

open Json

/-- The file that is read when none is named. -/
def usualFile : Path := ⟨"storytest.toml"⟩

/-- The path holds settings in JSON. -/
def isJson (p : Path) : Bool :=
  (p.extension?.map Text.lowerAscii) == some "json"

/-- A level in a JSON file may also be given by its rank. -/
def nameLevels (fields : DataMap) : DataMap :=
  fields.map fun
    | ("logLevel", .number (.whole n)) =>
      match LogLevel.all.find? fun l => (l.rank : Int) == n with
      | some l => ("logLevel", .string l.name)
      | none => ("logLevel", .number (.whole n))
    | field => field

/-- The settings that a file's text gives. -/
def fieldsOfText? (p : Path) (s : String) : Option DataMap :=
  if isJson p then
    match parse? s nestingBound with
    | some (.object fields) => some (nameLevels fields)
    | _ => none
  else Assignments.parse? s

/-- The settings that a file gives; a directory gives none. -/
def fileLayer (disk : Disk) (p : Path) : Except ConfigError DataMap :=
  match disk.follow p with
  | .file bytes =>
    match (Text.Utf8.decode? bytes).bind (fieldsOfText? p) with
    | some fields => .ok fields
    | none => .error .load
  | _ => .ok []

/-- Something is at the path. -/
def isThere (disk : Disk) (p : Path) : Bool :=
  match disk.follow p with
  | .file _ | .directory _ => true
  | .missing | .refused => false

/-- The settings below those of the environment. -/
def fileSettings (disk : Disk) (named : Option Path) : Except ConfigError DataMap :=
  match named with
  | some p => if isThere disk p then fileLayer disk p else .error (.notFound p)
  | none => fileLayer disk usualFile

/-- The configuration that layers of settings describe, the lowest first. -/
def ofLayers (layers : List DataMap) : Except ConfigError Config :=
  match ofFields? (layers.foldl DataMap.insertAll (toFields {})) with
  | some c => .ok c
  | none => .error .load

/-- The configuration that a file gives, as it stands. -/
def ofFile (disk : Disk) (named : Option Path) : Except ConfigError Config := do
  let file ← fileSettings disk named
  ofLayers [file]

/-- The configuration that a file and the variables of the environment give, if it makes sense. -/
def load (disk : Disk) (assigned : List (String × String)) (named : Option Path) :
    Except ConfigError Config := do
  let file ← fileSettings disk named
  let some environment := Environment.settings? assigned | throw .load
  let c ← ofLayers [file, environment]
  match c.fault? with
  | some e => throw e
  | none => pure c

end StorySuite.Config
