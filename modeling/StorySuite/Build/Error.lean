import StorySuite.Dialect
import StorySuite.Source.ReadError
import StorySuite.Text.Quoted

/-!
# Build — why a module cannot be built

Every error names the path it is about.  What a parser or a lowering pass has to say is a list of
messages when a caller supplied them, and is left out where the library's own parser found the
fault.
-/

namespace StorySuite

/-- Why a module cannot be read, parsed, lowered or built. -/
inductive BuildError where
  | read (path : Path) (cause : ReadError)
  | unsupportedDialect (path : Path)
  | parse (path : Path) (messages : Option (List String))
  | transform (path : Path) (messages : Option (List String))
  | bundle (path : Path) (messages : Option (List String))
  deriving DecidableEq, Repr

namespace BuildError

/-- The path that the error is about. -/
def path : BuildError → Path
  | .read p _ | .unsupportedDialect p | .parse p _ | .transform p _ | .bundle p _ => p

/-- The messages in one line. -/
def joined (messages : Option (List String)) : String :=
  ", ".intercalate (messages.getD [])

/-- What is told of the error. -/
def message : BuildError → String
  | .read p cause => "Failed to read module " ++ p.text ++ ": " ++ cause.message
  | .unsupportedDialect p => "Unsupported source dialect for " ++ p.text
  | .parse p ms => "Failed to parse " ++ p.text ++ ": " ++ joined ms
  | .transform p ms => "Failed to transform " ++ p.text ++ ": " ++ joined ms
  | .bundle p ms => "Failed to bundle " ++ p.text ++ ": " ++ Text.displayList (ms.getD [])

/-- The error's code. -/
def code : BuildError → String
  | .read .. => "storytest::build::read_failed"
  | .unsupportedDialect .. => "storytest::build::unsupported_dialect"
  | .parse .. => "storytest::build::parse_failed"
  | .transform .. => "storytest::build::transform_failed"
  | .bundle .. => "storytest::build::bundle_failed"

/-- What may help. -/
def help? : BuildError → Option String
  | .unsupportedDialect .. =>
    some "story modules must be .js, .jsx, .mjs, .cjs, .ts, .tsx, .mts or .cts files"
  | _ => none

end BuildError

end StorySuite
