/-!
# Export names

The name of one export of a module.  The default export is the one named `default`; it holds what is
said of all stories together and is treated apart.
-/

namespace StorySuite

/-- The name of an export. -/
structure ExportName where
  text : String
  deriving DecidableEq, Repr, Inhabited

namespace ExportName

instance : ToString ExportName := ⟨text⟩

/-- The default export's name. -/
def defaultExport : ExportName := ⟨"default"⟩

/-- The name is the default export's. -/
def isDefault (n : ExportName) : Bool :=
  n.text == "default"

/-- Names are ordered by their characters' codes. -/
def le (m n : ExportName) : Bool :=
  decide (m.text ≤ n.text)

/-- The names in order. -/
def sort (ns : List ExportName) : List ExportName :=
  ns.mergeSort le

end ExportName

end StorySuite
