import CameraGraph.Branch.Grouping
import CameraGraph.Element
import CameraGraph.Profile

/-!
# CameraGraph.Branch.Compile

Branches as elements.

```text
source ! decode [! gvaattachroi ! queue] ! stage ! ... ! [gvametaconvert !] tee
    tee. ! queue ! [gvametapublish !] gvafpscounter ! fakesink
    tee. ! queue ! fpsdisplaysink video-sink=fakesink
    tee. ! queue ! gvawatermark ! [vapostproc !] fpsdisplaysink   (when frames are shown)
```

Names carry numbers so that no two elements of a run share one. Whatever takes numbers is given the
last number taken and gives back the last one taken from then on. A branch takes its numbers in a
fixed order: one for its source, one for each detection, one for its junction.
-/

namespace CameraGraph

/-- A fan-out point and the legs behind it. -/
structure Junction where
  /-- The name of its tee. -/
  name : String
  /-- The legs. -/
  legs : List (List Element)
  deriving Repr, DecidableEq

/-- A branch as elements. -/
structure CompiledBranch where
  /-- From the source to the tee. -/
  chain : List Element
  /-- The tee and what follows it. -/
  junction : Junction
  deriving Repr, DecidableEq

/-- What compiling depends on besides the branch. -/
structure Compiler where
  /-- The settings of the run. -/
  settings : Settings
  /-- Where models lie. -/
  layout : ModelLayout
  /-- The profiles of the devices. -/
  profiles : Profiles

/-- What sets the elements of one branch apart from those of all others. -/
structure Place where
  /-- The position of the camera, from one on. -/
  camera : Nat
  /-- The position of the branch, from one on. -/
  signature : Nat

/-- The place of a branch. -/
def Branch.place (b : Branch) : Place := ⟨b.cameraIndex + 1, b.signatureIndex + 1⟩

/-- The place in a name. -/
def Place.text (p : Place) : String := natText p.camera ++ "_" ++ natText p.signature

/-- Takes the number after the last one taken: the number, and the last one taken from then on. -/
def allocate (last : Nat) : Nat × Nat := (last + 1, last + 1)

/-! ### Batch sizes -/

/-- A batch size as it is written: a positive number of 32 bits. -/
def batchSize? (raw : String) : Option Nat :=
  (unsigned32? (Text.trim raw).toList).filter (0 < ·)

/-- The text of a batch size: the setting's, else the profile's. -/
def rawBatchSize (override : Option String) (tuning : Tuning) (key : String) : Option String :=
  override.or (tuning.get key)

/-- The batch size, with one in place of a missing or bad one. -/
def batchSize (override : Option String) (tuning : Tuning) (key : String) : Nat :=
  ((rawBatchSize override tuning key).bind batchSize?).getD 1

/-- What there is to say about a batch size. -/
def batchSizeLog (override : Option String) (tuning : Tuning) (key : String) : Log :=
  match rawBatchSize override tuning key with
  | none => []
  | some raw =>
    if (batchSize? raw).isSome then []
    else [.warning ("invalid " ++ key ++ " value '" ++ raw ++ "', using default 1")]

/-! ### Stages -/

/-- The end of a leg that throws its frames away. -/
def fakeSink : Element := ((Element.mk "fakesink" [] []).prop "sync" "false").prop "async" "false"

/-- An element of a factory. -/
def element (factory : String) : Element := ⟨factory, [], []⟩

namespace Compiler

/-- The profile of the device of a step. -/
def tuningOf (x : Compiler) (step : Step) : Tuning :=
  (step.device.map x.profiles.tuning).getD {}

/-- The files of the model of a step. -/
def filesOf (x : Compiler) (step : Step) : ModelFiles :=
  x.layout.modelFiles step.kind (step.model.getD "") (step.precision.getD "")

/-- Adds the model of a step: the model, its device and its processing rules. -/
def withModel (x : Compiler) (e : Element) (step : Step) : Element :=
  let files := x.filesOf step
  let e := e.prop "model" files.model
  let e := step.device.elim e (e.prop "device")
  files.proc.elim e (e.prop "model-proc")

/-- The element that detects, under the number `n`. -/
def detector (x : Compiler) (p : Place) (n : Nat) (b : BoundStep) : Element :=
  let tuning := x.tuningOf b.step
  let batch := batchSize x.settings.batchSizeDetect tuning "BATCH_SIZE_DETECT"
  let e := (((((element "gvadetect").prop "model-instance-id" ("detect" ++ p.text)).prop
    "threshold" "0.5").prop
    "name" (ElementName.sanitize (b.cameraId ++ "_" ++ b.workload ++ "_" ++ natText n))).prop
    "batch-size" (natText batch)).prop "inference-interval" "3"
  let e := e.prop "scale-method" "fast"
  let e := if b.step.region.isSome then e.prop "inference-region" "1" else e
  (((x.withModel e b.step).fragment (tuning.fragment "PRE_PROCESS")).fragment
    (tuning.fragment "DETECTION_OPTIONS")).fragment (tuning.fragment "PRE_PROCESS_CONFIG")

/-- The element that classifies. -/
def classifier (x : Compiler) (p : Place) (b : BoundStep) : Element :=
  let tuning := x.tuningOf b.step
  let batch := batchSize x.settings.batchSizeClassify tuning "BATCH_SIZE_CLASSIFY"
  let e := (((element "gvaclassify").prop "model-instance-id" ("classify" ++ p.text)).prop
    "batch-size" (natText batch)).prop "inference-region" "1"
  (x.withModel (e.prop "scale-method" "fast") b.step).fragment
    (tuning.fragment "CLASSIFICATION_PRE_PROCESS")

/-- The elements of a step. A detection takes a number. -/
def stage (x : Compiler) (p : Place) (last : Nat) (b : BoundStep) : List Element × Nat :=
  match b.step.kind with
  | .detect =>
    let (n, last) := allocate last
    ([x.detector p n b, (element "gvatrack").prop "tracking-type" "zero-term-imageless", .queue],
      last)
  | .classify => ([x.classifier p b, .queue], last)
  | .inference =>
    ([x.withModel ((element "gvainference").prop "model-instance-id" ("inference" ++ p.text))
        b.step], last)
  | .transform =>
    ([((element "gvapython").prop "module"
        (x.settings.scriptsDir.join (b.step.module.getD ""))).prop
        "function" (b.step.function.getD ""), .queue], last)
  | .utility u => ([element u.factory], last)
  | .unknown name => ([element name], last)

/-- What a step that runs a model is missing. -/
def missingFields (step : Step) : List String :=
  [("model", step.model), ("device", step.device), ("precision", step.precision)].filterMap
    fun f => if f.2.isNone then some f.1 else none

/-- What there is to say about a step. -/
def stageLog (x : Compiler) (b : BoundStep) : Log :=
  let tuning := x.tuningOf b.step
  let missing := missingFields b.step
  let fields : Log :=
    if b.step.kind.runsModel && !missing.isEmpty then
      [.warning (b.step.kind.name ++ " step of workload '" ++ b.workload ++ "' on camera " ++
        b.cameraId ++ " is missing " ++ ", ".intercalate missing)]
    else []
  let rest : Log := match b.step.kind with
    | .detect => batchSizeLog x.settings.batchSizeDetect tuning "BATCH_SIZE_DETECT"
    | .classify => batchSizeLog x.settings.batchSizeClassify tuning "BATCH_SIZE_CLASSIFY"
    | .transform =>
      if (b.step.module.getD "").isEmpty || (b.step.function.getD "").isEmpty then
        [.warning ("gvapython step of workload '" ++ b.workload ++ "' on camera " ++ b.cameraId ++
          " is missing module or function")]
      else []
    | .unknown name =>
      [.warning ("unknown or unsupported element type '" ++ name ++ "' in workload '" ++
        b.workload ++ "', passing through")]
    | _ => []
  let labels : Log :=
    if b.step.kind.runsModel then
      (x.filesOf b.step).labels.toList.map fun path =>
        .detail .branch ("labels for " ++ b.step.kind.name ++ ": " ++ path)
    else []
  fields ++ rest ++ labels

/-- Adds stages to a chain. A queue stands before every stage but the first of a branch, unless the
chain ends in one already. -/
def addStages (x : Compiler) (p : Place) (chain : List Element) (first : Bool) (last : Nat) :
    List BoundStep → List Element × Nat
  | [] => (chain, last)
  | b :: rest =>
    let chain := if first || chain.getLast?.any Element.isQueue then chain else chain ++ [.queue]
    let (elements, last) := x.stage p last b
    x.addStages p (chain ++ elements) false last rest

/-! ### Source, junction and legs -/

/-- The elements of a source, which takes a number. -/
def sourceElements (x : Compiler) (last : Nat) (source : Source) : List Element × Nat :=
  let (n, last) := allocate last
  match source with
  | .stream uri name =>
    ([((((((((element "rtspsrc").prop "name" (name ++ "_" ++ natText n)).quotedProp
        "location" uri).prop "protocols" "tcp").prop "latency" x.settings.rtspLatency).prop
        "timeout" "5000000").prop "retry" "3").prop "drop-on-latency" "true"),
      element "rtph264depay", (element "h264parse").prop "config-interval" "-1", .queue], last)
  | .file path name =>
    ([((element "filesrc").prop "name" (name ++ "_" ++ natText n)).prop "location" path], last)

/-- The device of the first step. -/
def firstDevice (steps : List BoundStep) : Option String := steps.head?.bind (·.step.device)

/-- The regions of the steps, in order of first appearance. -/
def regionsOf (steps : List BoundStep) : List Region :=
  Region.distinct (steps.filterMap (·.step.region))

/-- The element that attaches the regions of the steps, and the queue behind it; nothing if there are
no regions. -/
def attachRegions (regions : List Region) : List Element :=
  if regions.isEmpty then []
  else [regions.foldl (fun e r => e.prop "roi" r.text) (element "gvaattachroi"), .queue]

/-- Whether a step runs a script, after which no metadata is converted or published. -/
def hasTransform (steps : List BoundStep) : Bool := steps.any (·.step.kind = .transform)

/-- The leg that counts frames and, unless a script does it, publishes what was found. -/
def countingLeg (x : Compiler) (p : Place) (n : Nat) (transform : Bool) : List Element :=
  let counter := (element "gvafpscounter").prop "name" ("stream" ++ p.text ++ "_" ++ natText n)
  if transform then [.queue, counter, fakeSink]
  else
    let file := x.settings.resultsDir.join ("rs-" ++ p.text ++ "__" ++ natText n ++ "_" ++
      x.settings.timestamp ++ ".jsonl")
    [.queue, ((element "gvametapublish").prop "file-format" "json-lines").prop "file-path" file,
      counter, fakeSink]

/-- The leg that measures frame rates. -/
def measuringLeg : List Element :=
  [.queue, ((element "fpsdisplaysink").prop "video-sink" "fakesink").prop
    "signal-fps-measurements" "true"]

/-- The leg that shows frames. Frames of a device with a memory of its own are fetched first. -/
def showingLeg (device : Option String) : List Element :=
  let fetch := device.any fun d => ["GPU", "NPU"].contains (Text.upper d)
  [.queue, element "gvawatermark"] ++ (if fetch then [element "vapostproc"] else []) ++
    [(((element "fpsdisplaysink").prop "video-sink" "autovideosink").prop
      "text-overlay" "true").prop "signal-fps-measurements" "true"]

/-- A branch as elements, with the last number taken. -/
def compile (x : Compiler) (branch : Branch) (last : Nat) : CompiledBranch × Nat :=
  let p := branch.place
  let device := firstDevice branch.steps
  let decode := device.elim "decodebin" fun d => (x.profiles.tuning d).decode
  let (source, last) := x.sourceElements last branch.source
  let front := source ++ [element decode] ++ attachRegions (regionsOf branch.steps)
  let (chain, last) := x.addStages p front true last branch.steps
  let (n, last) := allocate last
  let transform := hasTransform branch.steps
  let name := "t" ++ p.text ++ "_" ++ natText n
  let convert := if transform then [] else [element "gvametaconvert"]
  ({ chain := chain ++ convert ++ [(element "tee").prop "name" name]
     junction :=
      { name
        legs := [x.countingLeg p n transform, measuringLeg] ++
          (if x.settings.render then [showingLeg device] else []) } }, last)

/-- What there is to say about a branch. -/
def branchLog (x : Compiler) (branch : Branch) : Log := branch.steps.flatMap x.stageLog

end Compiler

/-- Branches as elements, one after another, with the last number taken. -/
def Compiler.compileAll (x : Compiler) (last : Nat) : List Branch → List CompiledBranch × Nat
  | [] => ([], last)
  | b :: rest =>
    let (compiled, last) := x.compile b last
    let (others, last) := x.compileAll last rest
    (compiled :: others, last)

end CameraGraph
