/-!
# CameraGraph.Log

What a run says besides its result.

Nothing here changes a result: a warning replaces a bad value by a default or skips one unit, and the
run goes on. A log is a list of entries in the order they arise, and functions that may have
something to say return theirs beside their result. Each entry carries the part of the program it
comes from, because diagnostics can be filtered by it.
-/

namespace CameraGraph

/-- How important an entry is, the most important first. -/
inductive Level where
  | error
  | warn
  | info
  | debug
  deriving Repr, DecidableEq

/-- The part of the program that an entry comes from. -/
inductive Origin where
  /-- The program itself. -/
  | program
  /-- The helpers that word warnings and notices. -/
  | diagnostics
  /-- Choosing the source of a camera. -/
  | source
  /-- Reading device profiles. -/
  | device
  /-- Building and compiling branches. -/
  | branch
  /-- Putting the branches of all cameras together. -/
  | graph
  deriving Repr, DecidableEq

/-- One line of diagnostics. -/
structure Entry where
  /-- How important it is. -/
  level : Level
  /-- Where it comes from. -/
  origin : Origin
  /-- What it says. -/
  text : String
  deriving Repr, DecidableEq

/-- Entries in the order they arise. -/
abbrev Log := List Entry

namespace Entry

/-- A problem of one unit, which is skipped or replaced. -/
def warning (text : String) : Entry := ⟨.warn, .diagnostics, text⟩

/-- A notice. -/
def notice (text : String) : Entry := ⟨.info, .diagnostics, text⟩

/-- A detail for whoever looks closely. -/
def detail (origin : Origin) (text : String) : Entry := ⟨.debug, origin, text⟩

end Entry

namespace Log

/-- The warnings of a log. -/
def warnings (log : Log) : Log := log.filter fun e => e.level = .warn

@[simp] theorem warnings_nil : warnings [] = [] := rfl

@[simp] theorem warnings_append (a b : Log) : warnings (a ++ b) = warnings a ++ warnings b :=
  List.filter_append ..

@[simp] theorem warnings_detail (origin : Origin) (text : String) (log : Log) :
    warnings (.detail origin text :: log) = warnings log := rfl

@[simp] theorem warnings_notice (text : String) (log : Log) :
    warnings (.notice text :: log) = warnings log := rfl

theorem warnings_flatMap {α : Type} (f : α → Log) (as : List α) :
    warnings (as.flatMap f) = as.flatMap fun a => warnings (f a) :=
  List.filter_flatMap ..

end Log
end CameraGraph
