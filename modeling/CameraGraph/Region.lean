import CameraGraph.Json.Record

/-!
# CameraGraph.Region

Regions of interest: the rectangle of a frame that inference is restricted to.

The four coordinates keep the spelling of the document as far as a JSON number has one, so that `0`
and `0.0` are written back as they came and count as different rectangles.
-/

namespace CameraGraph

/-- A rectangle, from one corner to the opposite one. -/
structure Region where
  /-- The left edge. -/
  x : Json.Number := .integer 0
  /-- The top edge. -/
  y : Json.Number := .integer 0
  /-- The right edge. -/
  x2 : Json.Number := .integer 1
  /-- The bottom edge. -/
  y2 : Json.Number := .integer 1
  deriving Repr, DecidableEq

namespace Region

/-- The rectangle as the value of a `roi` property. -/
def text (r : Region) : String :=
  ",".intercalate [r.x.text, r.y.text, r.x2.text, r.y2.text]

/-- Equality of rectangles, coordinate by coordinate. -/
def same (a b : Region) : Bool :=
  a.x.same b.x && a.y.same b.y && a.x2.same b.x2 && a.y2.same b.y2

/-- The members of a list of regions that equal none before them. -/
def distinct (regions : List Region) : List Region :=
  regions.foldl (fun kept r => if kept.any (·.same r) then kept else kept ++ [r]) []

open Json

/-- A coordinate of a list, or its default when the list is too short. -/
def coordinateAt (items : List Value) (i : Nat) (default : Number) : Except Error Number :=
  match items[i]? with
  | some v => v.asNumber
  | none => .ok default

/-- A coordinate of an object, or its default when it is left out. -/
def coordinate (members : List (String × Value)) (key : String) (default : Number) :
    Except Error Number :=
  match KeyedList.last? key members with
  | some v => v.asNumber
  | none => .ok default

/-- The region that a value describes. `null` and the empty object are no region; the coordinates of
an object are looked at in the order of their keys, and of a repeated key the last one counts. -/
def ofValue : Value → Except Error (Option Region)
  | .null => .ok none
  | .object [] => .ok none
  | .object members => do
    let x ← coordinate members "x" (.integer 0)
    let x2 ← coordinate members "x2" (.integer 1)
    let y ← coordinate members "y" (.integer 0)
    let y2 ← coordinate members "y2" (.integer 1)
    return some { x, y, x2, y2 }
  | .list items => do
    let x ← coordinateAt items 0 (.integer 0)
    let y ← coordinateAt items 1 (.integer 0)
    let x2 ← coordinateAt items 2 (.integer 1)
    let y2 ← coordinateAt items 3 (.integer 1)
    if 4 < items.length then
      throw (.misshapen (.wrongLength items.length "fewer elements in array"))
    return some { x, y, x2, y2 }
  | v => .error (v.refuse "struct RegionOfInterest")

/-- Reads a region. -/
def decoder : Decoder (Option Region) := via anyValue ofValue

end Region
end CameraGraph
