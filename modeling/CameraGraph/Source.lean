import CameraGraph.Artifacts
import CameraGraph.Camera
import CameraGraph.ElementName
import CameraGraph.Log
import CameraGraph.Url.Parser

/-!
# CameraGraph.Source

Where the frames of a camera come from, and what its source element is called.

Every stream is played from the configured streamer. A camera that names a file gets the loop the
streamer makes of it; an explicit address keeps its scheme, path and query and loses its host; a
camera with nothing but an id gets that id as a path. Only a camera with none of these is read from a
file, and that file has no name of its own.
-/

namespace CameraGraph

/-- Where frames come from. -/
inductive Source where
  /-- A stream. -/
  | stream (uri : String) (name : String)
  /-- A video file. -/
  | file (path : Path) (name : String)
  deriving Repr, DecidableEq

/-- The name of the source. -/
def Source.name : Source → String
  | stream _ name => name
  | file _ name => name

/-- The streamer that streams are played from. -/
structure Endpoint where
  /-- Its host. -/
  host : String
  /-- Its port. -/
  port : String
  deriving Repr, DecidableEq

/-- The streamer of a run. -/
def Settings.endpoint (s : Settings) : Endpoint := ⟨s.rtspHost, s.rtspPort⟩

namespace Source

/-- The parts of an explicit address that matter when it is moved to the streamer. -/
structure UriParts where
  /-- The scheme. -/
  scheme : String
  /-- The host, which counts only for a streamer without one. -/
  host : Option String
  /-- The port, which counts only for a streamer without one. -/
  port : Option String
  /-- The path, with its slash. -/
  path : String
  /-- The query. -/
  query : Option String
  deriving Repr, DecidableEq

namespace UriParts

/-- The parts of an address. -/
def ofUrl (url : Url) : UriParts :=
  ⟨url.scheme, url.host, url.port.map natText, url.path, url.query⟩

/-- The text before the first `://`, and the text after it. -/
def cutScheme : List Char → Option (List Char × List Char)
  | [] => none
  | ':' :: '/' :: '/' :: r => some ([], r)
  | c :: r => (cutScheme r).map fun p => (c :: p.1, p.2)

/-- The parts of a text that is no address, found by position. Its port is not trusted. -/
def split (raw : String) : UriParts :=
  let (scheme, rest) := (cutScheme raw.toList).getD ([], raw.toList)
  let (rest, query) := Text.cut '?' (Text.cut '#' rest).1
  let authority := rest.takeWhile (· ≠ '/')
  let host := (authority.reverse.takeWhile (· ≠ '@')).reverse.takeWhile (· ≠ ':')
  { scheme := String.ofList scheme
    host := some (String.ofList host)
    port := none
    path := String.ofList (rest.dropWhile (· ≠ '/'))
    query := query.map String.ofList }

/-- The address of the same path and query at the streamer. What the streamer leaves open is filled
from the address, then by a default. -/
def rehost (parts : UriParts) (endpoint : Endpoint) : String :=
  let scheme := if parts.scheme.isEmpty then "rtsp" else parts.scheme
  let host :=
    if endpoint.host.isEmpty then (parts.host.filter (!·.isEmpty)).getD "rtsp-streamer"
    else endpoint.host
  let port := if endpoint.port.isEmpty then parts.port.getD "8554" else endpoint.port
  let query := ((parts.query.filter (!·.isEmpty)).map ("?" ++ ·)).getD ""
  scheme ++ "://" ++ host ++ ":" ++ port ++ parts.path ++ query

end UriParts

/-- An explicit address at the streamer. A text that is no address is taken apart by position. -/
def rehostUri (raw : String) (endpoint : Endpoint) : String × Log :=
  match Url.parse raw with
  | .ok url => ((UriParts.ofUrl url).rehost endpoint, [])
  | .error e =>
    ((UriParts.split raw).rehost endpoint,
      [.warning ("stream uri '" ++ raw ++ "' does not parse (" ++ e.message ++
        "), re-hosting its path as written")])

/-- The address of a path at the streamer. -/
def addressOf (endpoint : Endpoint) (path : String) : String :=
  "rtsp://" ++ endpoint.host ++ ":" ++ endpoint.port ++ path

/-- A value without the blanks, the double quotes and the single quotes around it, in that order. -/
def unquoted (value : String) : String :=
  Text.strip (· == '\'') (Text.strip (· == '"') (Text.trim value))

/-- The first explicit address with anything in it, under its key. -/
def explicitUri (uris : List (String × Option String)) : Option (String × String) :=
  uris.findSome? fun p =>
    let cleaned := unquoted (p.2.getD "")
    if cleaned.isEmpty then none else some (p.1, cleaned)

/-- The stream that an explicit address means: another host's address, or a path at the streamer. -/
def explicitStream (cleaned : String) (endpoint : Endpoint) : String × Log :=
  if (UriParts.cutScheme cleaned.toList).isSome then rehostUri cleaned endpoint
  else if cleaned.toList.head? = some '/' then (addressOf endpoint cleaned, [])
  else (addressOf endpoint ("/" ++ cleaned), [])

/-- The stream of a camera, unless nothing points at one: its file's, then an explicit one, then its
id's. -/
def streamUri (camera : Camera) (endpoint : Endpoint) : Option String × Log :=
  match camera.fileRef with
  | some ref =>
    (some (addressOf endpoint ("/" ++ benchStem ref camera.frameWidth camera.frameRate)), [])
  | none =>
    match explicitUri camera.legacyUris with
    | some (key, cleaned) =>
      let (uri, log) := explicitStream cleaned endpoint
      (some uri, .detail .source ("using legacy " ++ key ++ " for stream uri: " ++ cleaned) :: log)
    | none => (camera.id.map fun id => addressOf endpoint ("/" ++ id), [])

/-- The text that names the source of a stream: the last segment of its path, or else its host. -/
def nameOfUri (uri : String) : Option String :=
  match Url.parse uri with
  | .ok url => (Path.fileName url.path).or (url.host.filter (!·.isEmpty))
  | .error _ => none

/-- The name of a camera's source: its id, then what its stream suggests, then its file. -/
def streamName (camera : Camera) (uri : Option String) : String :=
  ((camera.id.or (uri.bind nameOfUri)).or (camera.fileRef.bind Path.fileStem)).elim "stream"
    ElementName.sanitize

/-- The source of a camera. -/
def ofCamera (camera : Camera) (endpoint : Endpoint) (layout : ModelLayout) : Source × Log :=
  let (uri, log) := streamUri camera endpoint
  let name := streamName camera uri
  match uri with
  | some uri => (.stream uri name, log)
  | none =>
    (.file (layout.videoPath (camera.fileRef.getD "") camera.frameWidth camera.frameRate) name, log)

end Source
end CameraGraph
