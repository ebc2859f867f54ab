/-!
# CameraGraph.Environment

The variables that surround a run.

Settings are taken from them, profile files substitute them, and one of them filters diagnostics. A
run sees one environment from start to end, so it is plain data.
-/

namespace CameraGraph

/-- The value of each variable that is set. -/
abbrev Environment := String → Option String

namespace Environment

/-- The environment without variables. -/
def empty : Environment := fun _ => none

end Environment
end CameraGraph
