import CameraGraph.Environment
import CameraGraph.Path
import CameraGraph.Text.Blank
import CameraGraph.Text.Quoted

/-!
# CameraGraph.Settings

The settings of a run, taken from the environment.

Every setting has a default, so nothing here can fail. Batch sizes are kept as written and read where
they are used, so that a bad one spoils no more than the stages it is meant for.
-/

namespace CameraGraph

/-- The settings of a run. -/
structure Settings where
  /-- The directory of models, videos, scripts and results. -/
  serverDir : Path
  /-- The directory of the two documents. -/
  configDir : Path
  /-- The name of the workload document. -/
  workloadDocument : String
  /-- The name of the camera document. -/
  cameraDocument : String
  /-- The directory of the device profiles. -/
  deviceProfileDir : Path
  /-- The host of the streamer. -/
  rtspHost : String
  /-- The port of the streamer. -/
  rtspPort : String
  /-- The latency of every stream source. -/
  rtspLatency : String
  /-- The batch size of detection, which wins over any profile's. -/
  batchSizeDetect : Option String
  /-- The batch size of classification, which wins over any profile's. -/
  batchSizeClassify : Option String
  /-- Whether frames are shown on screen too. -/
  render : Bool
  /-- The time that names result files. -/
  timestamp : String
  /-- Debug categories of the launched command. -/
  gstDebug : String
  /-- Tracers of the launched command. -/
  gstTracers : String
  /-- The workload that excludes a camera. -/
  excludeWorkload : String
  deriving Repr, DecidableEq

namespace Settings

/-- The settings that an environment describes; `now` stands in for a time that is not given. -/
def ofEnvironment (env : Environment) (now : String) : Settings :=
  let get (key default : String) := (env key).getD default
  let serverDir := get "PIPELINE_SERVER_DIR" "/home/pipeline-server"
  { serverDir
    configDir := (env "CONFIG_DIR").getD (Path.join serverDir "configs")
    workloadDocument := get "WORKLOAD_DIST" "workload_to_pipeline.json"
    cameraDocument := get "CAMERA_STREAM" "camera_to_workload.json"
    deviceProfileDir := get "DEVICE_PROFILE_DIR" "/res"
    rtspHost := get "RTSP_STREAM_HOST" "rtsp-streamer"
    rtspPort := get "RTSP_STREAM_PORT" "8554"
    rtspLatency := get "RTSP_LATENCY" "200"
    batchSizeDetect := env "BATCH_SIZE_DETECT"
    batchSizeClassify := env "BATCH_SIZE_CLASSIFY"
    render := (env "RENDER_MODE").any fun v => Text.trim v == "1"
    timestamp := get "TIMESTAMP" now
    gstDebug := get "GST_DEBUG" "GST_TRACER:7,gvafpscounter:4"
    gstTracers := get "GST_TRACERS" "latency_tracer(flags=pipeline)"
    excludeWorkload := get "EXCLUDE_WORKLOAD" "lp_vlm" }

/-- The camera document. -/
def cameraDocumentPath (s : Settings) : Path := s.configDir.join s.cameraDocument

/-- The workload document. -/
def workloadDocumentPath (s : Settings) : Path := s.configDir.join s.workloadDocument

/-- The directory of models. -/
def modelsDir (s : Settings) : Path := s.serverDir.join "models"

/-- The directory of videos. -/
def videosDir (s : Settings) : Path := s.serverDir.join "sample-media"

/-- The directory of results. -/
def resultsDir (s : Settings) : Path := s.serverDir.join "results"

/-- The directory of scripts. -/
def scriptsDir (s : Settings) : Path := s.serverDir.join "src"

/-- A path as diagnostics show it: quoted text in which single quotes are escaped too. -/
def describePath (p : Path) : String :=
  String.ofList ('"' :: p.toList.flatMap (fun c =>
    if c = '\'' then ['\\', '\''] else Text.quoteChar c) ++ ['"'])

/-- A setting that may be missing, as diagnostics show it. -/
def describeOptional : Option String → String
  | some s => "Some(" ++ Text.quoted s ++ ")"
  | none => "None"

/-- All settings on one line, as diagnostics show them. -/
def describe (s : Settings) : String :=
  let fields :=
    [("server_dir", describePath s.serverDir), ("config_dir", describePath s.configDir),
      ("workload_document", Text.quoted s.workloadDocument),
      ("camera_document", Text.quoted s.cameraDocument),
      ("device_profile_dir", describePath s.deviceProfileDir),
      ("rtsp_host", Text.quoted s.rtspHost), ("rtsp_port", Text.quoted s.rtspPort),
      ("rtsp_latency", Text.quoted s.rtspLatency),
      ("batch_size_detect", describeOptional s.batchSizeDetect),
      ("batch_size_classify", describeOptional s.batchSizeClassify),
      ("render", if s.render then "true" else "false"), ("timestamp", Text.quoted s.timestamp),
      ("gst_debug", Text.quoted s.gstDebug), ("gst_tracers", Text.quoted s.gstTracers),
      ("exclude_workload", Text.quoted s.excludeWorkload)]
  "Settings \x7b " ++ ", ".intercalate (fields.map fun f => f.1 ++ ": " ++ f.2) ++ " \x7d"

end Settings
end CameraGraph
