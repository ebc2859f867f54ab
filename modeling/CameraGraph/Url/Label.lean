import CameraGraph.Text.Normal
import CameraGraph.Url.DomainTable

/-!
# CameraGraph.Url.Label

What the labels of an international domain name may hold.

A label does not start with a mark. A joiner stands only where it changes how letters connect. And
once letters written from right to left occur anywhere in a name, every label keeps to one direction
from its first character to its last.
-/

namespace CameraGraph.Url

/-! ### Joiners -/

/-- Whether the last of the characters before, last one first, is one that kills a vowel. -/
def afterVirama (before : List Char) : Bool :=
  before.head?.any fun c => Text.combiningClass c.toNat = 9

/-- Whether the next character that a connection does not run through is in a set. -/
def connects (set : Text.Ranges) (cs : List Char) : Bool :=
  (cs.dropWhile fun c => joiningTransparent.contains c.toNat).head?.any fun c =>
    set.contains c.toNat

/-- Whether every joiner is in place, given the characters before, last one first. -/
def joinersFit (before : List Char) : List Char → Bool
  | [] => true
  | c :: rest =>
    (if c.toNat = 0x200C then
        afterVirama before || (connects joiningForward before && connects joiningBackward rest)
      else if c.toNat = 0x200D then afterVirama before
      else true) && joinersFit (c :: before) rest

/-! ### Directions -/

/-- How a character takes part in the direction of its label. -/
inductive Direction where
  /-- Written from left to right. -/
  | left
  /-- Written from right to left. -/
  | right
  /-- A digit of the Arabic script. -/
  | arabicNumber
  /-- A digit that other scripts share. -/
  | europeanNumber
  /-- No direction of its own. -/
  | neutral
  /-- The direction of the character before. -/
  | mark
  deriving Repr, DecidableEq

/-- The direction of a character. -/
def Direction.ofChar (c : Char) : Direction :=
  let n := c.toNat
  if n < 0x80 then if c.isAlpha then .left else if c.isDigit then .europeanNumber else .neutral
  else if directionRight.contains n then .right
  else if directionArabicNumber.contains n then .arabicNumber
  else if directionEuropeanNumber.contains n then .europeanNumber
  else if directionNeutral.contains n then .neutral
  else if directionMark.contains n then .mark
  else .left

/-- Whether a label keeps to the direction of its first character. -/
def keepsDirection (label : List Char) : Bool :=
  let ds := label.map Direction.ofChar
  let last := (ds.reverse.dropWhile (· = .mark)).head?
  match ds.head? with
  | none => true
  | some .right =>
    ds.all (· ≠ .left) &&
      last.any (fun d => d = .right || d = .arabicNumber || d = .europeanNumber) &&
      !(ds.contains .arabicNumber && ds.contains .europeanNumber)
  | some .left =>
    ds.all (fun d => d ≠ .right && d ≠ .arabicNumber) &&
      last.any (fun d => d = .left || d = .europeanNumber)
  | some _ => false

/-- Whether a label holds anything written from right to left. -/
def runsRight (label : List Char) : Bool :=
  label.any fun c => [Direction.right, .arabicNumber].contains (Direction.ofChar c)

/-! ### Labels -/

/-- Whether a label may stand in a name, directions apart. -/
def labelFits (label : List Char) : Bool :=
  !label.head?.any (fun c => domainMarks.contains c.toNat) && joinersFit [] label

end CameraGraph.Url
