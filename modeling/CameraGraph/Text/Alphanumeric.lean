import CameraGraph.Text.PropertyTable

/-!
# CameraGraph.Text.Alphanumeric

Letters and digits of every script.

Names that a profile file substitutes are made of them; an underscore is not one.
-/

namespace CameraGraph.Text

/-- Membership in the Unicode property Alphabetic or in a category of numbers. -/
def isAlphanumeric (c : Char) : Bool :=
  if c.toNat < 0x80 then c.isAlphanum else alphanumerics.contains c.toNat

end CameraGraph.Text
