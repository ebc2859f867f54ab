import CameraGraph.Branch.Compile

/-!
# CameraGraph.Graph

The graph of a run: the branches of all cameras, as often as they are asked for.

A camera that asks for the excluding workload is left out. The branches of the others are built and
compiled camera by camera, and the whole is repeated, every round taking its numbers where the last
one left off.
-/

namespace CameraGraph

/-- Everything one launch command needs. -/
structure Graph where
  /-- Debug categories. -/
  gstDebug : String
  /-- Tracers. -/
  gstTracers : String
  /-- The branches, camera by camera. -/
  branches : List CompiledBranch
  deriving Repr, DecidableEq

/-- The two documents of a run. -/
structure Inputs where
  /-- The cameras. -/
  cameras : List Camera
  /-- The workloads. -/
  workloads : WorkloadMap

namespace Graph

/-- The excluding workload as names are compared. -/
def normalMarker (marker : String) : String := Text.lower (Text.trim marker)

/-- Whether a camera asks for the excluding workload. -/
def isExcluded (marker : String) (camera : Camera) : Bool :=
  camera.workloads.normalized.contains (normalMarker marker)

/-- The cameras that are not excluded. -/
def eligible (cameras : List Camera) (marker : String) : List Camera :=
  cameras.filter (!isExcluded marker ·)

/-- The id of a camera, as notices give it. -/
def idText (camera : Camera) : String := camera.id.getD "unknown"

/-- The notices about excluded cameras. -/
def exclusionLog (cameras : List Camera) (marker : String) : Log :=
  (cameras.filter (isExcluded marker)).map fun camera =>
    .notice ("skipping camera " ++ idText camera ++ " with " ++ normalMarker marker ++ " workload")

/-- What a part of a run makes and says, with the last number taken. -/
structure Stretch where
  /-- Its branches. -/
  branches : List CompiledBranch
  /-- Its log. -/
  log : Log
  /-- The last number taken. -/
  last : Nat

/-- Parts of a run, one after another. -/
def inTurn {α : Type} (part : α → Nat → Stretch) (last : Nat) : List α → Stretch
  | [] => ⟨[], [], last⟩
  | a :: rest =>
    let one := part a last
    let others := inTurn part one.last rest
    ⟨one.branches ++ others.branches, one.log ++ others.log, others.last⟩

/-- A camera with its position, in one round: its branches are built and compiled. -/
def cameraStretch (x : Compiler) (map : WorkloadMap) (round : Nat) (c : Camera × Nat)
    (last : Nat) : Stretch :=
  let workloads := c.1.workloads.normalized
  let g := Grouping.ofCamera x.settings x.layout c.2 c.1 workloads map
  let (compiled, last) := x.compileAll last g.branches
  { branches := compiled
    log := g.log ++
      .detail .graph ("round " ++ natText (round + 1) ++ ": camera " ++ idText c.1 ++ " -> " ++
        natText g.branches.length ++ " branch(es) from " ++ natText workloads.length ++
        " workload(s)") ::
      g.branches.flatMap x.branchLog
    last }

/-- One round over all cameras. -/
def roundStretch (x : Compiler) (map : WorkloadMap) (cameras : List Camera) (round : Nat)
    (last : Nat) : Stretch :=
  inTurn (cameraStretch x map round) last cameras.zipIdx

/-- The graph of a run. -/
def compile (x : Compiler) (inputs : Inputs) (count : Nat) : Graph × Log :=
  let cameras := eligible inputs.cameras x.settings.excludeWorkload
  let run := inTurn (roundStretch x inputs.workloads cameras) 0 (List.range count)
  ({ gstDebug := x.settings.gstDebug
     gstTracers := x.settings.gstTracers
     branches := run.branches },
    exclusionLog inputs.cameras x.settings.excludeWorkload ++ run.log)

end Graph
end CameraGraph
