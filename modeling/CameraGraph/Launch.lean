import CameraGraph.Graph

/-!
# CameraGraph.Launch

The launch command of a graph.

The command is one shell line, broken up by continuations: a line of its own for every branch in the
compact layout, for every element in the other. Both layouts hold the same words in the same order.
-/

namespace CameraGraph

/-- How a command is broken into lines. -/
inductive Layout where
  /-- One line for each branch. -/
  | compact
  /-- One line for each element. -/
  | multiline
  deriving Repr, DecidableEq

namespace Graph

/-- The line that starts the command. -/
def header (g : Graph) : String :=
  "GST_DEBUG=" ++ g.gstDebug ++ " GST_TRACERS=\"" ++ g.gstTracers ++
    "\" gst-launch-1.0 --verbose"

/-- Elements linked to one another. -/
def linked (elements : List Element) : String := " ! ".intercalate (elements.map Element.text)

/-- What stands before the first element of a leg. -/
def legStart (junction : Junction) : String := junction.name ++ ". ! "

/-- A branch on one line. -/
def compactLine (b : CompiledBranch) : String :=
  "  " ++ linked b.chain ++
    String.join (b.junction.legs.map fun leg => " " ++ legStart b.junction ++ linked leg)

/-- Elements on one line each, links at the ends of lines. -/
def followingLines : List Element → List String
  | [] => []
  | [e] => ["    " ++ e.text]
  | e :: rest => ("    " ++ e.text ++ " !") :: followingLines rest

/-- Elements on one line each, the first of them after `start`. -/
def segmentLines (start : String) : List Element → List String
  | [] => []
  | [e] => ["  " ++ start ++ e.text]
  | e :: rest => ("  " ++ start ++ e.text ++ " !") :: followingLines rest

/-- A branch on lines for each element. -/
def elementLines (b : CompiledBranch) : List String :=
  segmentLines "" b.chain ++ b.junction.legs.flatMap (segmentLines (legStart b.junction))

/-- The lines of a command. -/
def lines (g : Graph) : Layout → List String
  | .compact => g.header :: g.branches.map compactLine
  | .multiline => g.header :: g.branches.flatMap elementLines

/-- The launch command of a graph. -/
def command (g : Graph) (layout : Layout) : String := " \\\n".intercalate (g.lines layout)

end Graph
end CameraGraph
