import StorySuite.BindingName
import StorySuite.Build.Error
import StorySuite.Dialect

/-!
# Module reference — three names of a module

A module is known by the path of its file, by the path of a sibling under which generated code is
built, and by a URL under the working directory.  All three follow from the path a caller gives.
-/

namespace StorySuite

/-- The names of a story module. -/
structure ModuleReference where
  /-- The cleaned path of the file. -/
  realPath : Path
  /-- The sibling that names the generated unit. -/
  virtualPath : Path
  /-- The path for display, below the working directory when the file is. -/
  publicUrl : String
  dialect : Dialect
  deriving DecidableEq, Repr

namespace ModuleReference

/-- What stands before the extension of a virtual path. -/
def virtualMarker : String := "storytest"

/-- The sibling of `p` with the marker before its extension. -/
def virtualSibling (p : Path) : Path :=
  let stem := p.stem?.getD "module"
  p.withFileName <| match p.extension? with
    | some ext => stem ++ "." ++ virtualMarker ++ "." ++ ext
    | none => stem ++ "." ++ virtualMarker

/-- The URL of `p`: its names below `base` when it lies there, else all its names. -/
def urlOf (p base : Path) : String :=
  let cs := (p.stripBase? base).getD p.components
  "/" ++ "/".intercalate ((cs.filter Component.isName).map Component.text)

/-- The reference of the module at `path`, taken from `cwd`. -/
def new (path cwd : Path) : Except BuildError ModuleReference :=
  let real := cwd.locate path
  match Dialect.ofPath? real with
  | none => .error (.unsupportedDialect real)
  | some dialect => .ok
    { realPath := real
      virtualPath := virtualSibling real
      publicUrl := urlOf real cwd.clean
      dialect }

/-- The file's name. -/
def baseName (m : ModuleReference) : String :=
  m.realPath.fileName?.getD ""

/-- The directory of the file. -/
def directory (m : ModuleReference) : Path :=
  m.realPath.parent?.getD ⟨"/"⟩

/-- The name under which the default export is declared. -/
def defaultBinding (m : ModuleReference) : String :=
  BindingName.ofDefaultExport m.realPath

end ModuleReference

end StorySuite
