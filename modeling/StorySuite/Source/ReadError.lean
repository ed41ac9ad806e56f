import StorySuite.Path.Basic

/-!
# Source — why a file cannot be read
-/

namespace StorySuite

/-- Why a file cannot be read. -/
inductive ReadError where
  /-- No file is there. -/
  | notFound (path : Path)
  /-- The system refuses, in its own words. -/
  | io (path : Path)
  /-- The file's bytes are no text. -/
  | notUtf8 (path : Path)
  /-- Reading was given up. -/
  | task (detail : String)
  deriving DecidableEq, Repr

namespace ReadError

/-- What is told of the error, as far as it is not the system's own words. -/
def message : ReadError → String
  | .notFound p => "no such module: " ++ p.text
  | .io p => "cannot read " ++ p.text
  | .notUtf8 p => p.text ++ " is not UTF-8 text"
  | .task detail => "read task failed: " ++ detail

/-- The message holds none of the system's own words. -/
def hasOwnMessage : ReadError → Bool
  | .notFound _ | .notUtf8 _ => true
  | .io _ => false
  | .task _ => true

end ReadError

end StorySuite
