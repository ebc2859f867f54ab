import CameraGraph.Signature
import CameraGraph.Source

/-!
# CameraGraph.Branch.Grouping

The branches of a camera.

A camera's workloads are bound to the camera and grouped: workloads whose steps have one signature
share a branch, which runs the steps of the first of them. Branches stand in the order of their first
workloads. A name that the workload document does not know, or that has no steps, is reported and
left out.
-/

namespace CameraGraph

/-- A step of a workload, bound to a camera. -/
structure BoundStep where
  /-- The step, with the camera's region in place of its own if the camera has one. -/
  step : Step
  /-- The workload it belongs to. -/
  workload : String
  /-- The camera it runs for. -/
  cameraId : String
  deriving Repr, DecidableEq

/-- One chain of steps, shared by all workloads of a camera with the same signature. -/
structure Branch where
  /-- The position of the camera. -/
  cameraIndex : Nat
  /-- The position of the branch among the camera's. -/
  signatureIndex : Nat
  /-- The signature that its workloads share. -/
  signature : Signature
  /-- Where its frames come from. -/
  source : Source
  /-- The steps of its first workload. -/
  steps : List BoundStep
  /-- Its workloads, in request order. -/
  workloads : List String
  deriving Repr, DecidableEq

/-- The branches found so far, with what there was to say. -/
structure Grouping where
  /-- The branches. -/
  branches : List Branch := []
  /-- The signatures found so far with the positions of their branches, the latest first. -/
  positions : List (Signature × Nat) := []
  /-- The log. -/
  log : Log := []

/-- What all branches of a camera have in common. -/
structure CameraSite where
  /-- The position of the camera. -/
  index : Nat
  /-- Its id, or a name made from its position. -/
  cameraId : String
  /-- Its region. -/
  region : Option Region
  /-- Its source. -/
  source : Source

namespace CameraSite

/-- The site of a camera at a position. -/
def ofCamera (index : Nat) (camera : Camera) (source : Source) : CameraSite :=
  { index, cameraId := camera.id.getD ("cam" ++ natText (index + 1)), region := camera.region,
    source }

/-- A step with the region of the camera in place of its own. -/
def restrict (site : CameraSite) (step : Step) : Step :=
  { step with region := site.region.or step.region }

/-- The steps of a workload, bound to the camera. -/
def bind (site : CameraSite) (workload : String) (steps : List Step) : List BoundStep :=
  steps.map fun s => ⟨site.restrict s, workload, site.cameraId⟩

/-- Adds a workload with steps: to the branch of its signature, or as a branch of its own. -/
def place (site : CameraSite) (g : Grouping) (workload : String) (steps : List BoundStep) :
    Grouping :=
  let signature := Signature.ofSteps (steps.map (·.step))
  match g.positions.lookup signature with
  | some i =>
    let served := ((g.branches[i]?).map (·.workloads)).getD []
    { g with
      branches := g.branches.modify i fun b => { b with workloads := b.workloads ++ [workload] }
      log := g.log ++ [.detail .branch
        ("camera " ++ site.cameraId ++ ": workload '" ++ workload ++ "' shares branch " ++
          natText (i + 1) ++ " (" ++ signature.text ++ ") with " ++ Text.quotedList served)] }
  | none =>
    let branch : Branch :=
      { cameraIndex := site.index, signatureIndex := g.branches.length, signature,
        source := site.source, steps, workloads := [workload] }
    { g with
      branches := g.branches ++ [branch]
      positions := (signature, g.branches.length) :: g.positions }

/-- The warning about a name that the workload document does not know. -/
def unknownWorkload (site : CameraSite) (workload : String) : Entry :=
  .warning ("camera " ++ site.cameraId ++ " requests unknown workload '" ++ workload ++
    "', skipping")

/-- The warning about a workload without steps. -/
def emptyWorkload (site : CameraSite) (workload : String) : Entry :=
  .warning ("workload '" ++ workload ++ "' on camera " ++ site.cameraId ++
    " has no steps, skipping")

/-- Adds a requested workload. -/
def add (site : CameraSite) (map : WorkloadMap) (g : Grouping) (workload : String) : Grouping :=
  match map.get? workload with
  | none => { g with log := g.log ++ [site.unknownWorkload workload] }
  | some [] => { g with log := g.log ++ [site.emptyWorkload workload] }
  | some (s :: steps) => site.place g workload (site.bind workload (s :: steps))

/-- The branches of the requested workloads. -/
def group (site : CameraSite) (map : WorkloadMap) (workloads : List String) : Grouping :=
  workloads.foldl (site.add map) {}

end CameraSite

/-- The branches of a camera at a position, for the requested workloads. -/
def Grouping.ofCamera (settings : Settings) (layout : ModelLayout) (index : Nat) (camera : Camera)
    (workloads : List String) (map : WorkloadMap) : Grouping :=
  let (source, log) := Source.ofCamera camera settings.endpoint layout
  let site := CameraSite.ofCamera index camera source
  let g := site.group map workloads
  { g with
    log := log ++ .detail .branch
      ("camera " ++ site.cameraId ++ ": source element " ++ source.name) :: g.log }

end CameraGraph
