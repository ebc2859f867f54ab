import CameraGraph.Region
import CameraGraph.Text.Blank
import CameraGraph.Text.Case

/-!
# CameraGraph.Camera

The camera document: which cameras a lane has, where their frames come from, and which workloads each
of them asks for.

Documents are written by hand, so the fields of a camera are lenient: a text may be given as a number
or a boolean, the workloads as one name or a list, and every field may be left out.
-/

namespace CameraGraph

open Json

/-- The workloads a camera asks for, as the document gives them. -/
inductive WorkloadRefs where
  /-- One name. -/
  | one (name : String)
  /-- A list of names. -/
  | many (names : List String)
  deriving Repr, DecidableEq

namespace WorkloadRefs

/-- The names in document order. -/
def names : WorkloadRefs → List String
  | one name => [name]
  | many names => names

/-- The names trimmed and lower-cased, as they are looked up. -/
def normalized (refs : WorkloadRefs) : List String :=
  refs.names.map fun name => Text.lower (Text.trim name)

/-- The text that an item of a list is. -/
def nameOf? : Value → Option String
  | .string s => some s
  | _ => none

/-- The workloads that a value names. -/
def ofValue : Value → Except Error WorkloadRefs
  | .string s => .ok (.one s)
  | .list items =>
    match items.mapM nameOf? with
    | some names => .ok (.many names)
    | none => .error (.misshapen (.noForm "WorkloadRefs"))
  | _ => .error (.misshapen (.noForm "WorkloadRefs"))

end WorkloadRefs

/-- A camera as its document describes it. -/
structure Camera where
  /-- The id, which element names and file names are made from. -/
  cameraId : Option String := none
  /-- The workloads it asks for. -/
  workloads : WorkloadRefs := .many []
  /-- The rectangle that takes the place of every step's own. -/
  region : Option Region := none
  /-- A video file, whose loop the streamer serves. -/
  fileSource : Option String := none
  /-- The frame width of that loop. -/
  width : Option String := none
  /-- The frame rate of that loop. -/
  fps : Option String := none
  /-- The value of the key `streamUri`. -/
  streamUri : Option String := none
  /-- The value of the key `stream_uri`. -/
  streamUriPlain : Option String := none
  /-- The value of the key `rtspUri`. -/
  rtspUri : Option String := none
  /-- The value of the key `rtsp_url`. -/
  rtspUrl : Option String := none
  deriving Repr, DecidableEq

namespace Camera

/-- The id, trimmed, unless nothing is left of it. -/
def id (c : Camera) : Option String := c.cameraId.bind Text.nonBlank?

/-- The file that is named: the text before the first bar, trimmed, unless nothing is left of it. -/
def fileRef (c : Camera) : Option String :=
  c.fileSource.bind fun s => Text.nonBlank? (String.ofList (Text.cut '|' s.toList).1)

/-- The frame width. -/
def frameWidth (c : Camera) : String := c.width.getD "1920"

/-- The frame rate. -/
def frameRate (c : Camera) : String := c.fps.getD "15"

/-- The keys that may hold an explicit address, with their values, in the order they are tried. -/
def legacyUris (c : Camera) : List (String × Option String) :=
  [("streamUri", c.streamUri), ("stream_uri", c.streamUriPlain), ("rtspUri", c.rtspUri),
    ("rtsp_url", c.rtspUrl)]

/-- The text of a string, a number or a boolean. -/
def scalarOf : Option Value → Except Error (Option String)
  | none => .ok none
  | some .null => .ok none
  | some (.string s) => .ok (some s)
  | some (.number n) => .ok (some n.text)
  | some (.bool b) => .ok (some (if b then "true" else "false"))
  | some v => .error (.misshapen (.notScalar v))

/-- Reads a field that is a text, however it is written. -/
def scalar : Decoder (Option String) := via (optional anyValue) scalarOf

/-- The shape of a camera. -/
def shape : Shape Camera where
  name := "struct CameraSpec"
  fields :=
    [.optional "camera_id" scalar fun v c => { c with cameraId := v },
      .optional "workloads" (via anyValue WorkloadRefs.ofValue) fun v c => { c with workloads := v },
      .optional "region_of_interest" Region.decoder fun v c => { c with region := v },
      .optional "fileSrc" scalar fun v c => { c with fileSource := v },
      .optional "width" scalar fun v c => { c with width := v },
      .optional "fps" scalar fun v c => { c with fps := v },
      .optional "streamUri" scalar fun v c => { c with streamUri := v },
      .optional "stream_uri" scalar fun v c => { c with streamUriPlain := v },
      .optional "rtspUri" scalar fun v c => { c with rtspUri := v },
      .optional "rtsp_url" scalar fun v c => { c with rtspUrl := v }]
  empty := {}

/-- Reads one camera from its own text. -/
def parse (text : String) : Except Error Camera := shape.parse text

/-- The shape of the configuration of a lane: its cameras. -/
def laneShape : Shape (List Camera) where
  name := "struct LaneConfig"
  fields := [.needed "cameras" (listOf shape.decoder) fun v _ => v]
  empty := []

/-- The shape of the camera document: the configuration of one lane. -/
def documentShape : Shape (List Camera) where
  name := "struct CameraDocument"
  fields := [.needed "lane_config" laneShape.decoder fun v _ => v]
  empty := []

/-- Reads the camera document. -/
def parseDocument (text : String) : Except Error (List Camera) := documentShape.parse text

end Camera
end CameraGraph
