import CameraGraph.Region
import CameraGraph.Text.Case

/-!
# CameraGraph.Workload

The workload document: which steps each workload runs.

A step names the element that runs it. Four elements get parameters from the step, twelve are placed
as they are, and any other name is kept verbatim, so that a newer document still compiles. Workload
names are compared lower-cased; when two of them collide the bytewise greater one counts, whatever
order the document has them in.
-/

namespace CameraGraph

open Json

/-- Elements that are placed as they are, without parameters. -/
inductive Utility where
  | track
  | attachRoi
  | metaConvert
  | metaPublish
  | watermark
  | fpsCounter
  | fpsDisplaySink
  | queue
  | videoConvert
  | decodeBin
  | fileSrc
  | fakeSink
  deriving Repr, DecidableEq

namespace Utility

/-- All of them. -/
def all : List Utility :=
  [track, attachRoi, metaConvert, metaPublish, watermark, fpsCounter, fpsDisplaySink, queue,
    videoConvert, decodeBin, fileSrc, fakeSink]

/-- The name of the element. -/
def factory : Utility → String
  | track => "gvatrack"
  | attachRoi => "gvaattachroi"
  | metaConvert => "gvametaconvert"
  | metaPublish => "gvametapublish"
  | watermark => "gvawatermark"
  | fpsCounter => "gvafpscounter"
  | fpsDisplaySink => "fpsdisplaysink"
  | queue => "queue"
  | videoConvert => "videoconvert"
  | decodeBin => "decodebin"
  | fileSrc => "filesrc"
  | fakeSink => "fakesink"

/-- The utility that an element name stands for. -/
def ofFactory? (name : String) : Option Utility := all.find? (·.factory == name)

end Utility

/-- What a step does. -/
inductive StepKind where
  /-- Finds objects. -/
  | detect
  /-- Classifies found objects. -/
  | classify
  /-- Runs a model on whole frames. -/
  | inference
  /-- Runs a script. -/
  | transform
  /-- Places an element as it is. -/
  | utility (u : Utility)
  /-- An element by any other name. -/
  | unknown (name : String)
  deriving Repr, DecidableEq

namespace StepKind

/-- The kind that an element name stands for. -/
def ofName (name : String) : StepKind :=
  if name = "gvadetect" then detect
  else if name = "gvaclassify" then classify
  else if name = "gvainference" then inference
  else if name = "gvapython" then transform
  else match Utility.ofFactory? name with
    | some u => utility u
    | none => unknown name

/-- The name of the element. -/
def name : StepKind → String
  | detect => "gvadetect"
  | classify => "gvaclassify"
  | inference => "gvainference"
  | transform => "gvapython"
  | utility u => u.factory
  | unknown name => name

/-- Whether the step runs a model, which needs a model, a device and a precision. -/
def runsModel : StepKind → Bool
  | detect | classify | inference => true
  | _ => false

end StepKind

/-- A step of a workload. -/
structure Step where
  /-- What it does. -/
  kind : StepKind
  /-- The model it runs. -/
  model : Option String := none
  /-- The device it runs on. -/
  device : Option String := none
  /-- The number format of the model. -/
  precision : Option String := none
  /-- The script it runs. -/
  module : Option String := none
  /-- The function of that script. -/
  function : Option String := none
  /-- The rectangle it is restricted to. -/
  region : Option Region := none
  deriving Repr, DecidableEq

namespace Step

/-- The shape of a step. -/
def shape : Shape Step where
  name := "struct StepSpec"
  fields :=
    [.needed "type" text fun v s => { s with kind := .ofName v },
      .optional "model" (optional text) fun v s => { s with model := v },
      .optional "device" (optional text) fun v s => { s with device := v },
      .optional "precision" (optional text) fun v s => { s with precision := v },
      .optional "module" (optional text) fun v s => { s with module := v },
      .optional "function" (optional text) fun v s => { s with function := v },
      .optional "region_of_interest" Region.decoder fun v s => { s with region := v }]
  empty := { kind := .unknown "" }

/-- Reads a list of steps from its own text. -/
def parseList (text : String) : Except Error (List Step) :=
  whole (listOf shape.decoder maxDepth) text

end Step

/-- The steps of each workload, sorted by lower-cased name. -/
structure WorkloadMap where
  /-- The names with their steps. -/
  entries : List (String × List Step)
  deriving Repr

namespace WorkloadMap

/-- The map of a document's members. Of equal names the last one counts; of names that differ in case
only, the bytewise greatest. -/
def ofMembers (members : List (String × List Step)) : WorkloadMap :=
  ⟨KeyedList.sorted ((KeyedList.sorted members).map fun m => (Text.lower m.1, m.2))⟩

/-- The steps of a workload. -/
def get? (map : WorkloadMap) (name : String) : Option (List Step) :=
  KeyedList.first? name map.entries

/-- The shape of the workload document. -/
def documentShape : Shape (List (String × List Step)) where
  name := "struct WorkloadDocument"
  fields := [.needed "workload_pipeline_map" (mapOf (listOf Step.shape.decoder)) fun v _ => v]
  empty := []

/-- Reads the workload document. -/
def parseDocument (text : String) : Except Error WorkloadMap :=
  (documentShape.parse text).map ofMembers

end WorkloadMap
end CameraGraph
