import CameraGraph.KeyedList
import CameraGraph.Text.Blank
import CameraGraph.Text.Case

/-!
# CameraGraph.Profile

Device profiles: choices of elements and properties for the device a step runs on.

A profile is a list of keys with values, of which the last of equal keys counts. A device without a
profile has the empty one. Devices are compared upper-cased.
-/

namespace CameraGraph

/-- The profile of one device. -/
structure Tuning where
  /-- Its keys and values as they were defined. -/
  pairs : List (String × String) := []
  deriving Repr, DecidableEq

namespace Tuning

/-- The value of a key. -/
def get (t : Tuning) (key : String) : Option String := KeyedList.last? key t.pairs

/-- The element that decodes frames. -/
def decode (t : Tuning) : String := ((t.get "DECODE").bind Text.nonBlank?).getD "decodebin"

/-- Properties to add to an element as they are, trimmed; nothing when the key is not set. -/
def fragment (t : Tuning) (key : String) : String := ((t.get key).map Text.trim).getD ""

end Tuning

/-- The profiles of all devices. -/
structure Profiles where
  /-- The devices, upper-cased, with their profiles. -/
  entries : List (String × Tuning) := []
  deriving Repr, DecidableEq

namespace Profiles

/-- Adds a profile, in place of an earlier one of the same device. -/
def add (p : Profiles) (device : String) (t : Tuning) : Profiles :=
  ⟨p.entries ++ [(Text.upper device, t)]⟩

/-- The profile of a device. -/
def tuning (p : Profiles) (device : String) : Tuning :=
  (KeyedList.last? (Text.upper device) p.entries).getD {}

end Profiles
end CameraGraph
