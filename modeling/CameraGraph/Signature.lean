import CameraGraph.Workload

/-!
# CameraGraph.Signature

Signatures of step lists.

Step lists with equal signatures are served by one branch. A signature is the JSON text of what
decides the shape of a branch: the kind, model, precision and device of every step, under sorted
keys. Regions, scripts and device profiles change parameters of elements and never the shape.
-/

namespace CameraGraph

/-- The signature of a step list. -/
structure Signature where
  /-- The text of the signature. -/
  text : String
  deriving Repr, DecidableEq

namespace Signature

/-- A text that may be missing, as a JSON value. -/
def optionalText : Option String → Json.Value
  | some s => .string s
  | none => .null

/-- What of a step takes part. -/
def entry (s : Step) : Json.Value :=
  .object
    [("device", optionalText s.device), ("model", optionalText s.model),
      ("precision", optionalText s.precision), ("type", .string s.kind.name)]

/-- The signature of a step list. -/
def ofSteps (steps : List Step) : Signature := ⟨(Json.Value.list (steps.map entry)).compact⟩

end Signature
end CameraGraph
