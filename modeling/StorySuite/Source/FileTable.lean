import StorySuite.Source.Files

/-!
# Source — files in a table

Sources held in a table under their cleaned paths, so that two spellings of one place share one
entry.
-/

namespace StorySuite

/-- Files under a root directory, by cleaned path, in the order in which they were first stored. -/
structure FileTable where
  root : Path
  entries : List (Path × List UInt8) := []

namespace FileTable

/-- The entry's key for `p`. -/
def key (t : FileTable) (p : Path) : Path :=
  t.root.locate p

/-- The bytes under a key. -/
def get? (t : FileTable) (key : Path) : Option (List UInt8) :=
  (t.entries.find? (·.1 == key)).map (·.2)

/-- Entries with `bytes` under `key`, in place of what was there. -/
def store (key : Path) (bytes : List UInt8) :
    List (Path × List UInt8) → List (Path × List UInt8)
  | [] => [(key, bytes)]
  | (k, old) :: rest => if k == key then (k, bytes) :: rest else (k, old) :: store key bytes rest

/-- The table with `bytes` stored at `p`. -/
def add (t : FileTable) (p : Path) (bytes : List UInt8) : FileTable :=
  { t with entries := store (t.key p) bytes t.entries }

/-- How many files there are. -/
def size (t : FileTable) : Nat :=
  t.entries.length

/-- A file is stored at `p`. -/
def holds (t : FileTable) (p : Path) : Bool :=
  (t.get? (t.key p)).isSome

/-- The bytes stored at `p`. -/
def read (t : FileTable) (p : Path) : Except ReadError (List UInt8) :=
  match t.get? (t.key p) with
  | some bytes => .ok bytes
  | none => .error (.notFound (t.key p))

/-- The table as a place that holds sources. -/
def files (t : FileTable) : Files :=
  { workingDir := t.root, holds := t.holds, read := t.read }

end FileTable

end StorySuite
