import StorySuite.Path.Basic

/-!
# Sandbox — what a required name asks for

A module in the sandbox requires others by name as if it lay at its own place.  A name is a path, a
path next to the module, a module of the platform, or else a package in the shared directory.
-/

namespace StorySuite

/-- What a required name stands for. -/
inductive ModuleRequest where
  /-- A module of the platform, under its own name. -/
  | builtin (name : String)
  | path (path : Path)
  deriving DecidableEq, Repr

namespace ModuleRequest

/-- The platform's modules. -/
def builtinNames : List String := [
  "assert", "async_hooks", "buffer", "child_process", "cluster", "console", "constants", "crypto",
  "dgram", "diagnostics_channel", "dns", "domain", "events", "fs", "http", "http2", "https",
  "inspector", "module", "net", "os", "path", "perf_hooks", "process", "punycode", "querystring",
  "readline", "repl", "stream", "string_decoder", "timers", "tls", "trace_events", "tty", "url",
  "util", "v8", "vm", "wasi", "worker_threads", "zlib"]

/-- The name asks for a module of the platform: it has the platform's scheme, or what stands before
its first `/` is such a module. -/
def isBuiltin (name : String) : Bool :=
  (Text.dropStart? "node:".toList name.toList).isSome ||
    builtinNames.contains (String.ofList (name.toList.takeWhile (· != '/')))

/-- What the loader is asked for. -/
def text : ModuleRequest → String
  | .builtin name => name
  | .path p => p.text

end ModuleRequest

/-- Where the names that a module requires are looked up. -/
structure Resolver where
  /-- The directory of the module. -/
  moduleDir : Path
  /-- The directory of packages. -/
  sharedDir : Path
  deriving DecidableEq, Repr

namespace Resolver

/-- What a name stands for. -/
def resolve (r : Resolver) (name : String) : ModuleRequest :=
  let p : Path := ⟨name⟩
  if p.isAbsolute then .path p
  else if name.toList.head? == some '.' then .path (r.moduleDir.join p).clean
  else if ModuleRequest.isBuiltin name then .builtin name
  else .path (r.sharedDir.join p)

end Resolver

end StorySuite
