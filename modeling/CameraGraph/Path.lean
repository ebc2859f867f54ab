/-!
# CameraGraph.Path

Paths with slashes.

A path is the text it is written as; nothing is normalised when it is joined or shown. Only the name
at the end of a path is looked for among its components, where repeated and trailing slashes and
single dots do not count.
-/

namespace CameraGraph

/-- A path, as written. -/
abbrev Path := String

namespace Path

/-- The second path seen from the first. An absolute second path stands for itself. -/
def join (base part : Path) : Path :=
  if part.toList.head? = some '/' then part
  else if base.isEmpty || base.toList.getLast? = some '/' then base ++ part
  else base ++ "/" ++ part

/-- The texts between the slashes. -/
def segments (p : List Char) : List (List Char) := p.splitOn '/'

/-- The last component of a path, unless that is the root, the parent or nothing at all. A dot counts
as a component only at the very front. -/
def fileNameChars (p : List Char) : Option (List Char) :=
  match (segments p).reverse.dropWhile fun s => s = [] || s = ['.'] with
  | [] => none
  | name :: _ => if name = ['.', '.'] then none else some name

/-- The name at the end of a path. -/
def fileName (p : Path) : Option String := (fileNameChars p.toList).map String.ofList

/-- A name without its last dot and what follows it. A name with no dot but one in front is its own
stem. -/
def stemChars (name : List Char) : List Char :=
  match name.reverse.dropWhile (· ≠ '.') with
  | [] => name
  | [_] => name
  | _ :: stem => stem.reverse

/-- The name at the end of a path, without its extension. -/
def fileStem (p : Path) : Option String := (fileNameChars p.toList).map fun n =>
  String.ofList (stemChars n)

end Path
end CameraGraph
