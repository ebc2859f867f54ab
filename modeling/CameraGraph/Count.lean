import CameraGraph.Log
import CameraGraph.Number.Integer
import CameraGraph.Text.Blank

/-!
# CameraGraph.Count

How often every branch is repeated.

The count of a run is a positive number of 63 bits. A missing count is one, and so is a bad one, which
a warning reports.
-/

namespace CameraGraph

/-- The integer that a written count denotes. -/
def writtenCount? (raw : String) : Option Int := signed64? (Text.trim raw).toList

/-- The count of a run. -/
def roundCount (raw : Option String) : Nat :=
  match raw.bind writtenCount? with
  | some n => if 1 ≤ n then n.toNat else 1
  | none => 1

/-- What there is to say about a count. -/
def roundCountLog : Option String → Log
  | none => []
  | some raw =>
    match writtenCount? raw with
    | some n =>
      if 1 ≤ n then []
      else [.warning ("Invalid num_of_pipelines value " ++ intText n ++ ", using default 1")]
    | none => [.warning ("Invalid num_of_pipelines value '" ++ raw ++ "', using default 1")]

end CameraGraph
