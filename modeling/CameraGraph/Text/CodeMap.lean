import CameraGraph.Text.Ranges

/-!
# CameraGraph.Text.CodeMap

Maps on code points, written the way character properties are published.

A map is one text of words. `C0:41.300` maps one code point to a list; `1D400-1D419:61` maps a range
so that distances are kept; `300-314=E6` maps a whole range to one and the same. Where words overlap,
the first counts.
-/

namespace CameraGraph.Text

/-- A range of code points with what they are mapped to. -/
structure CodeRun where
  /-- The least code point of the range. -/
  first : Nat
  /-- The greatest code point of the range. -/
  last : Nat
  /-- Whether distances are kept. -/
  shifts : Bool
  /-- What the least code point is mapped to. -/
  targets : List Nat
  deriving Repr

namespace CodeRun

/-- One written range with its targets. -/
def ofWord (w : List Char) : CodeRun :=
  let (range, targets) := w.span fun c => c != ':' && c != '='
  let (first, last) := Ranges.ofWord range
  { first, last
    shifts := targets.head? = some ':'
    targets := ((targets.drop 1).splitOn '.').map Ranges.hexNumber }

/-- What a code point of the range is mapped to. -/
def apply (r : CodeRun) (n : Nat) : List Nat :=
  r.targets.map (· + if r.shifts then n - r.first else 0)

end CodeRun

/-- A map on code points. -/
structure CodeMap where
  /-- Its ranges. -/
  runs : List CodeRun

namespace CodeMap

/-- The map written in a table. -/
def ofText (s : String) : CodeMap := ⟨(Ranges.words s).map CodeRun.ofWord⟩

/-- What a code point is mapped to, if it is. -/
def find? (m : CodeMap) (n : Nat) : Option (List Nat) :=
  (m.runs.find? fun r => r.first ≤ n && n ≤ r.last).map (·.apply n)

end CodeMap
end CameraGraph.Text
