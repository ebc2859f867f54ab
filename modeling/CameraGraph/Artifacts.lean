import CameraGraph.Settings
import CameraGraph.Workload

/-!
# CameraGraph.Artifacts

Where models and videos lie.

Models lie under a directory for their use: detectors apart from everything else. A classifier has a
file of labels and a file of processing rules beside its precisions. Videos are named for the file
they were made from, their frame width and their frame rate, and the streamer serves each of them
under the same name.
-/

namespace CameraGraph

/-- The name of a video without its extension. -/
def benchStem (fileRef width fps : String) : String :=
  let cs := fileRef.toList
  let ending := ".mp4".toList
  let base := if ending.isSuffixOf cs then cs.take (cs.length - ending.length) else cs
  String.ofList base ++ "-" ++ width ++ "-" ++ fps ++ "-bench"

/-- The files of one model. -/
structure ModelFiles where
  /-- The model itself. -/
  model : Path
  /-- The labels of its classes. -/
  labels : Option Path
  /-- Its processing rules. -/
  proc : Option Path
  deriving Repr, DecidableEq

/-- The directories of models and videos. -/
structure ModelLayout where
  /-- The directory of models. -/
  modelsDir : Path
  /-- The directory of videos. -/
  videosDir : Path
  deriving Repr, DecidableEq

namespace ModelLayout

/-- The file of a model in one precision, below the model's own directory. -/
def precisionFile (base : Path) (model precision : String) : Path :=
  (base.join precision).join (model ++ ".xml")

/-- The files of the model of a step. -/
def modelFiles (layout : ModelLayout) (kind : StepKind) (model precision : String) : ModelFiles :=
  let detection := (layout.modelsDir.join "object_detection").join model
  let classification := (layout.modelsDir.join "object_classification").join model
  match kind with
  | .detect => ⟨precisionFile detection model precision, none, none⟩
  | .inference => ⟨precisionFile classification model precision, none, none⟩
  | .classify =>
    ⟨precisionFile classification model precision, some (classification.join (model ++ ".txt")),
      some (classification.join (model ++ ".json"))⟩
  | _ => ⟨layout.modelsDir.join model, none, none⟩

/-- The video of a file. -/
def videoPath (layout : ModelLayout) (fileRef width fps : String) : Path :=
  layout.videosDir.join (benchStem fileRef width fps ++ ".mp4")

end ModelLayout

/-- The directories below a server's own. -/
def Settings.modelLayout (s : Settings) : ModelLayout := ⟨s.modelsDir, s.videosDir⟩

end CameraGraph
