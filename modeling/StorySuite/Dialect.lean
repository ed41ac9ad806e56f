import StorySuite.Path.Basic
import StorySuite.Text.Blank

/-!
# Dialect — source dialects

The dialect of a module follows from its file extension.  It decides which syntax a source may use
and what has to be taken out of it to leave a plain script.
-/

namespace StorySuite

/-- A source dialect. -/
inductive Dialect where
  | js
  | jsx
  | ts
  | tsx
  deriving DecidableEq, Repr, Inhabited

namespace Dialect

/-- The dialect's name, which is also its main extension. -/
def name : Dialect → String
  | .js => "js"
  | .jsx => "jsx"
  | .ts => "ts"
  | .tsx => "tsx"

/-- Type annotations are part of the dialect. -/
def hasTypes : Dialect → Bool
  | .ts | .tsx => true
  | .js | .jsx => false

/-- Element expressions are part of the dialect. -/
def hasElements : Dialect → Bool
  | .jsx | .tsx => true
  | .js | .ts => false

/-- The dialect of an extension, of either case and with any number of points in front. -/
def ofExtension? (ext : String) : Option Dialect :=
  match Text.lowerAscii (String.ofList (ext.toList.dropWhile (· == '.'))) with
  | "js" | "mjs" | "cjs" => some .js
  | "jsx" => some .jsx
  | "ts" | "mts" | "cts" => some .ts
  | "tsx" => some .tsx
  | _ => none

/-- The dialect of a path. -/
def ofPath? (p : Path) : Option Dialect :=
  p.extension?.bind ofExtension?

/-- The dialect of a name. -/
def ofName? : String → Option Dialect
  | "js" => some .js
  | "jsx" => some .jsx
  | "ts" => some .ts
  | "tsx" => some .tsx
  | _ => none

end Dialect

end StorySuite
