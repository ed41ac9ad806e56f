import StorySuite.Text.Pieces

/-!
# Path — paths as texts and as components

A path is a text with `/` between its parts.  Its components leave out empty parts, a `.` anywhere
but at the front, and a `/` at the end.  `clean` resolves `.` and `..` without looking at any file.
-/

namespace StorySuite

/-- A path, as it is written. -/
structure Path where
  text : String
  deriving DecidableEq, Repr, Inhabited

/-- A component of a path. -/
inductive Component where
  /-- The `/` in front of an absolute path. -/
  | root
  /-- `.` in front of a relative path. -/
  | current
  /-- `..` -/
  | parent
  /-- A name. -/
  | name (s : String)
  deriving DecidableEq, Repr

namespace Component

/-- The component's text, as it stands between separators. -/
def text : Component → String
  | .root => ""
  | .current => "."
  | .parent => ".."
  | .name s => s

/-- The component is a name. -/
def isName : Component → Bool
  | .name _ => true
  | _ => false

end Component

namespace Path

instance : ToString Path := ⟨text⟩

/-- The path starts at the root. -/
def isAbsolute (p : Path) : Bool :=
  p.text.toList.head? == some '/'

/-- The components that the parts of a path stand for; a leading `.` is kept for `atFront`. -/
def partComponents (atFront : Bool) : List (List Char) → List Component
  | [] => []
  | [] :: rest => partComponents atFront rest
  | ['.'] :: rest =>
    if atFront then .current :: partComponents false rest else partComponents false rest
  | ['.', '.'] :: rest => .parent :: partComponents false rest
  | part :: rest => .name (String.ofList part) :: partComponents false rest

/-- The components of a path. -/
def components (p : Path) : List Component :=
  match p.text.toList with
  | '/' :: rest => .root :: partComponents false (Text.splitChars '/' rest)
  | cs => partComponents true (Text.splitChars '/' cs)

/-- The path that is written with the given components. -/
def ofComponents : List Component → Path
  | [] => ⟨""⟩
  | .root :: rest => ⟨"/" ++ "/".intercalate (rest.map Component.text)⟩
  | cs => ⟨"/".intercalate (cs.map Component.text)⟩

/-- `p` taken from `base`: `p` itself when it is absolute, else `p` written after `base`. -/
def join (base p : Path) : Path :=
  if p.isAbsolute then p
  else
    let cs := base.text.toList
    if cs.isEmpty || cs.getLast? == some '/' then ⟨base.text ++ p.text⟩
    else ⟨base.text ++ "/" ++ p.text⟩

/-- The components `acc`, last first, followed by one more: `..` takes the name before it away, is
ignored at the root and kept elsewhere. -/
def pushClean (acc : List Component) : Component → List Component
  | .current => acc
  | .parent =>
    match acc with
    | .name _ :: rest => rest
    | .root :: _ => acc
    | _ => .parent :: acc
  | c => c :: acc

/-- The path without `.` and without any `..` that a name or the root before it can take up; `.`
when nothing is left. -/
def clean (p : Path) : Path :=
  match (p.components.foldl pushClean []).reverse with
  | [] => ⟨"."⟩
  | cs => ofComponents cs

/-- The last component, when it is a name. -/
def fileName? (p : Path) : Option String :=
  match p.components.getLast? with
  | some (.name s) => some s
  | _ => none

/-- What stands before and after the last point of a name; a point at the front does not count. -/
def splitName (s : String) : String × Option String :=
  let back := s.toList.reverse
  let after := (back.takeWhile (· != '.')).reverse
  match back.dropWhile (· != '.') with
  | [] => (s, none)
  | _ :: before =>
    if before.isEmpty then (s, none) else (String.ofList before.reverse, some (String.ofList after))

/-- The file name without its extension. -/
def stem? (p : Path) : Option String :=
  p.fileName?.map fun s => (splitName s).1

/-- What follows the last point of the file name. -/
def extension? (p : Path) : Option String :=
  p.fileName?.bind fun s => (splitName s).2

/-- The path without its last component; none for the root and for the empty path. -/
def parent? (p : Path) : Option Path :=
  match p.components.getLast? with
  | none => none
  | some .root => none
  | some _ => some (ofComponents p.components.dropLast)

/-- The path with another file name. -/
def withFileName (p : Path) (s : String) : Path :=
  (match p.fileName? with
    | some _ => p.parent?.getD ⟨""⟩
    | none => p).join ⟨s⟩

/-- What follows `base` in a list of components that begins with it. -/
def dropComponents? : List Component → List Component → Option (List Component)
  | [], cs => some cs
  | _ :: _, [] => none
  | b :: bs, c :: cs => if b = c then dropComponents? bs cs else none

/-- The components of `p` after those of `base`, when `p` begins with them. -/
def stripBase? (p base : Path) : Option (List Component) :=
  dropComponents? base.components p.components

/-- The path made absolute against `base` and cleaned. -/
def locate (base p : Path) : Path :=
  if p.isAbsolute then p.clean else (base.join p).clean

end Path

end StorySuite
