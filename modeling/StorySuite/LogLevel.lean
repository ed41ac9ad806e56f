import StorySuite.Text.Blank

/-!
# Log level — how much is told of a run
-/

namespace StorySuite

/-- How much is told, from nothing to every step. -/
inductive LogLevel where
  | off
  | error
  | warn
  | info
  | debug
  | trace
  deriving DecidableEq, Repr, Inhabited

namespace LogLevel

/-- Every level, from the quietest on. -/
def all : List LogLevel :=
  [.off, .error, .warn, .info, .debug, .trace]

/-- The level's name. -/
def name : LogLevel → String
  | .off => "off"
  | .error => "error"
  | .warn => "warn"
  | .info => "info"
  | .debug => "debug"
  | .trace => "trace"

/-- The level of an exact name; two levels have a second one. -/
def ofName? (s : String) : Option LogLevel :=
  if s == "silent" then some .off
  else if s == "warning" then some .warn
  else all.find? (·.name == s)

/-- The level of a name in either case, with blanks around it. -/
def parse? (s : String) : Option LogLevel :=
  ofName? (Text.lowerAscii (Text.trim s))

/-- How much the level tells. -/
def rank : LogLevel → Nat
  | .off => 0
  | .error => 1
  | .warn => 2
  | .info => 3
  | .debug => 4
  | .trace => 5

/-- The levels, the quietest first. -/
def sort (ls : List LogLevel) : List LogLevel :=
  ls.mergeSort fun a b => a.rank ≤ b.rank

end LogLevel

end StorySuite
