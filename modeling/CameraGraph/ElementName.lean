/-!
# CameraGraph.ElementName

Names of elements.

A command refers to elements by name, so a name has to be one bare token: ASCII letters, digits,
underscores and hyphens, with no digit in front. `sanitize` makes any text such a token, and leaves a
text that is one already alone.
-/

namespace CameraGraph.ElementName

/-- The characters of a name. -/
def allowed (c : Char) : Bool := c.isAlphanum || c == '_' || c == '-'

/-- The characters of the name made from a text: one outside the alphabet becomes an underscore, no
text becomes `stream`, and a digit in front gets `cam_` before it. -/
def sanitizeChars (raw : List Char) : List Char :=
  match raw.map fun c => if allowed c then c else '_' with
  | [] => "stream".toList
  | c :: r => if c.isDigit then "cam_".toList ++ c :: r else c :: r

/-- The name made from a text. -/
def sanitize (raw : String) : String := String.ofList (sanitizeChars raw.toList)

end CameraGraph.ElementName
