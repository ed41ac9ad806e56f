import StorySuite.Source.Files

/-!
# Source — files on a disk

A tree of directories and files.  A path is followed part by part: every part but the last has to be
a directory, `..` leaves the directory the walk is in, and a path with `/` at its end names a
directory.
-/

namespace StorySuite

/-- A tree of files, each under the names that lead to it from the root. -/
structure Disk where
  /-- Where relative paths start. -/
  workingDir : List String
  directories : List (List String) := []
  files : List (List String × List UInt8) := []

namespace Disk

/-- What a path leads to. -/
inductive Target where
  | directory (names : List String)
  | file (bytes : List UInt8)
  /-- Nothing has that name. -/
  | missing
  /-- A file stands where a directory is needed, or the name is none that a disk can hold. -/
  | refused

/-- The directories on the way to `names`, the root first and `names` last. -/
def onTheWay (names : List String) : List (List String) :=
  (List.range (names.length + 1)).map names.take

/-- A disk without files, with the working directory and those above it. -/
def empty (workingDir : List String) : Disk :=
  { workingDir, directories := onTheWay workingDir }

/-- The directory `names` is there. -/
def hasDirectory (d : Disk) (names : List String) : Bool :=
  d.directories.contains names

/-- The bytes of the file under `names`. -/
def fileAt? (d : Disk) (names : List String) : Option (List UInt8) :=
  (d.files.find? (·.1 == names)).map (·.2)

/-- Where `parts` lead from the directory `here`. -/
def walk (d : Disk) : List String → List String → Target
  | here, [] => .directory here
  | here, part :: rest =>
    if part == "" || part == "." then d.walk here rest
    else if part == ".." then d.walk here.dropLast rest
    else if part.toList.contains '\x00' || 255 < part.utf8ByteSize then .refused
    else
      let next := here ++ [part]
      if d.hasDirectory next then d.walk next rest
      else match d.fileAt? next with
        | some bytes => if rest.isEmpty then .file bytes else .refused
        | none => .missing

/-- Where `p` leads. -/
def follow (d : Disk) (p : Path) : Target :=
  match Text.splitAt '/' p.text with
  | [""] => .missing
  | parts => d.walk (if p.isAbsolute then [] else d.workingDir) parts

/-- The disk with the directory `names`, and those above it. -/
def addDirectory (d : Disk) (names : List String) : Disk :=
  { d with directories := d.directories ++ (onTheWay names).filter (!d.directories.contains ·) }

/-- The disk with `bytes` stored at `p`, and with the directories that lead there. -/
def add (d : Disk) (p : Path) (bytes : List UInt8) : Disk :=
  let names := ((Path.locate ⟨"/" ++ "/".intercalate d.workingDir⟩ p).components.filter
    Component.isName).map Component.text
  let d := d.addDirectory names.dropLast
  { d with files := (names, bytes) :: d.files.filter (·.1 != names) }

/-- A file is at `p`. -/
def holds (d : Disk) (p : Path) : Bool :=
  match d.follow p with
  | .file _ => true
  | _ => false

/-- The bytes of the file at `p`. -/
def read (d : Disk) (p : Path) : Except ReadError (List UInt8) :=
  match d.follow p with
  | .file bytes => .ok bytes
  | .missing => .error (.notFound p)
  | .directory _ | .refused => .error (.io p)

/-- The working directory as a path. -/
def workingPath (d : Disk) : Path :=
  ⟨"/" ++ "/".intercalate d.workingDir⟩

/-- The disk as a place that holds sources. -/
def asFiles (d : Disk) : Files :=
  { workingDir := d.workingPath, holds := d.holds, read := d.read }

end Disk

end StorySuite
