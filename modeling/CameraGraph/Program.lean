import CameraGraph.Arguments
import CameraGraph.Count
import CameraGraph.Launch
import CameraGraph.Log.Filter
import CameraGraph.Profile.Load

/-!
# CameraGraph.Program

A run from its files to its command.

Both documents are read first: without them there is no command at all, and the run fails with the
reason. Everything else that can be wrong is reported and worked around. A run is a function of its
command line, its environment, its settings and the files, and the log it leaves is filtered only at
the very end, so that what is shown never changes what is done.
-/

namespace CameraGraph

/-- Which of the two documents. -/
inductive DocumentKind where
  /-- The cameras with their workloads. -/
  | camera
  /-- The workloads with their steps. -/
  | workload
  deriving Repr, DecidableEq

/-- The word for a document. -/
def DocumentKind.name : DocumentKind → String
  | camera => "camera"
  | workload => "workload"

/-- Why a run has no command. -/
inductive RunError where
  /-- A document cannot be read. -/
  | unreadable (document : DocumentKind) (path : Path) (cause : FileError)
  /-- A document is refused. -/
  | refused (document : DocumentKind) (path : Path) (cause : Json.Error)

/-- The wording of a reason. -/
def RunError.message : RunError → String
  | unreadable document path cause =>
    "pipeline generation failed: read " ++ document.name ++ " document " ++ path ++ ": " ++
      cause.message
  | refused document path cause =>
    "pipeline generation failed: parse " ++ document.name ++ " document " ++ path ++ ": " ++
      cause.message

/-- Reads a document. -/
def readDocument {α : Type} (disk : Disk) (document : DocumentKind) (path : Path)
    (parse : String → Except Json.Error α) : Except RunError α :=
  match disk.readText path with
  | .error cause => .error (.unreadable document path cause)
  | .ok text =>
    match parse text with
    | .error cause => .error (.refused document path cause)
    | .ok value => .ok value

/-- Reads both documents of a run, the cameras first. -/
def Inputs.load (disk : Disk) (settings : Settings) : Except RunError Inputs := do
  let cameras ← readDocument disk .camera settings.cameraDocumentPath Camera.parseDocument
  let workloads ← readDocument disk .workload settings.workloadDocumentPath
    WorkloadMap.parseDocument
  return { cameras, workloads }

/-- The command of a run, and what there is to say. Profile files substitute from `env`. -/
def Settings.command (settings : Settings) (disk : Disk) (env : Environment) (count : Nat)
    (layout : Layout) : Except RunError String × Log :=
  match Inputs.load disk settings with
  | .error e => (.error e, [])
  | .ok inputs =>
    let (profiles, profileLog) := Profiles.load disk env settings.deviceProfileDir
    let compiler : Compiler := { settings, layout := settings.modelLayout, profiles }
    let (graph, graphLog) := Graph.compile compiler inputs count
    (.ok (graph.command layout), profileLog ++ graphLog)

/-- What a run leaves behind. -/
structure Outcome where
  /-- The exit status. -/
  status : Nat
  /-- What it prints. -/
  output : String
  /-- What it logs, as far as that is shown. -/
  log : Log

namespace Program

/-- The help. -/
def help : String := "Compile camera/workload assignments into one gst-launch-1.0 command

Usage: gst-pipeline-generator [OPTIONS] [COUNT]

Arguments:
  [COUNT]  How many times to replicate every camera's branches (positive integer)

Options:
      --multiline  Put every element on its own continued line
  -v, --verbose    Debug-level diagnostics on stderr
  -h, --help       Print help
"

/-- What comes of a command line that asks for no run. -/
def refusal : ArgumentError → Outcome
  | .help => { status := 0, output := help, log := [] }
  | _ => { status := 2, output := "", log := [] }

/-- The layout that a command line asks for. -/
def layoutOf (args : Arguments) : Layout := if args.multiline then .multiline else .compact

/-- What is said before the documents are read: about the count, the settings, and the results
directory, if it could not be created. -/
def opening (args : Arguments) (settings : Settings) (results : Option FileError) : Log :=
  roundCountLog args.count ++ [.detail .program ("settings: " ++ settings.describe)] ++
    results.toList.map fun cause =>
      .warning ("cannot create results directory " ++ settings.resultsDir ++ ": " ++ cause.message)

/-- A run on a disk, after the attempt to create the results directory. -/
def run (args : Arguments) (env : Environment) (settings : Settings) (results : Option FileError)
    (disk : Disk) : Outcome :=
  let filter := LogFilter.ofEnvironment env args.verbose
  let start := opening args settings results
  match settings.command disk env (roundCount args.count) (layoutOf args) with
  | (.ok command, log) =>
    { status := 0, output := command ++ "\n", log := filter.select (start ++ log) }
  | (.error e, log) =>
    { status := 1, output := ""
      log := filter.select (start ++ log ++ [⟨.error, .program, e.message⟩]) }

/-- The whole program on a tree of files; `now` stands in for a time that is not given. -/
def runOnTree (tree : FileTree) (env : Environment) (now : String) (args : List String) : Outcome :=
  match Arguments.parse args with
  | .error e => refusal e
  | .ok args =>
    let settings := Settings.ofEnvironment env now
    let (tree, results) := tree.createDirectories settings.resultsDir
    run args env settings results tree.disk

end Program
end CameraGraph
