import StorySuite.Source.ReadError
import StorySuite.Text.Utf8

/-!
# Source — files to read

What the library asks of a place that holds sources: the directory relative paths are taken from,
whether a file is there, and its bytes.
-/

namespace StorySuite

/-- A place that holds sources. -/
structure Files where
  /-- The directory that relative paths are taken from. -/
  workingDir : Path
  /-- A file is at the path. -/
  holds : Path → Bool
  /-- The bytes of the file at the path. -/
  read : Path → Except ReadError (List UInt8)

namespace Files

/-- `p` made absolute against the working directory, and cleaned. -/
def absolute (files : Files) (p : Path) : Path :=
  files.workingDir.locate p

/-- The text of the file at `p`. -/
def readText (files : Files) (p : Path) : Except ReadError String := do
  let bytes ← files.read p
  match Text.Utf8.decode? bytes with
  | some s => pure s
  | none => throw (.notUtf8 p)

end Files

end StorySuite
