import CameraGraph.Text.Blank

/-!
# CameraGraph.Element

Elements of a pipeline, and how they are written in a launch command.

An element is a factory name, properties in order, and fragments that a device profile adds as they
are. A value is written bare when it is one token, and inside double quotes otherwise; a quote inside
is escaped, a backslash is not.
-/

namespace CameraGraph

/-- The value of a property. -/
inductive PropValue where
  /-- Written bare when it is one token. -/
  | plain (s : String)
  /-- Always written inside quotes. -/
  | quoted (s : String)
  deriving Repr, DecidableEq

namespace PropValue

/-- The value itself. -/
def value : PropValue → String
  | plain s => s
  | quoted s => s

/-- Whether a text may stand without quotes. -/
def isBare (s : String) : Bool :=
  !s.isEmpty && s.toList.all fun c => !Text.isBlank c && c != '"'

/-- How a character stands inside quotes. -/
def quoteChar (c : Char) : List Char := if c = '"' then ['\\', '"'] else [c]

/-- A text inside quotes. -/
def inQuotes (s : String) : String := String.ofList ('"' :: s.toList.flatMap quoteChar ++ ['"'])

/-- The value as it is written. -/
def text : PropValue → String
  | plain s => if isBare s then s else inQuotes s
  | quoted s => inQuotes s

end PropValue

/-- An element of a pipeline. -/
structure Element where
  /-- The name of its factory. -/
  factory : String
  /-- Its properties in order. -/
  props : List (String × PropValue) := []
  /-- Texts added after the properties. -/
  fragments : List String := []
  deriving Repr, DecidableEq

namespace Element

/-- Adds a property. -/
def prop (e : Element) (key value : String) : Element :=
  { e with props := e.props ++ [(key, .plain value)] }

/-- Adds a property that is always written inside quotes. -/
def quotedProp (e : Element) (key value : String) : Element :=
  { e with props := e.props ++ [(key, .quoted value)] }

/-- Adds a fragment, trimmed, unless nothing is left of it. -/
def fragment (e : Element) (raw : String) : Element :=
  match Text.nonBlank? raw with
  | some s => { e with fragments := e.fragments ++ [s] }
  | none => e

/-- The value of the first property of a key. -/
def get (e : Element) (key : String) : Option String :=
  (e.props.find? (·.1 == key)).map (·.2.value)

/-- Whether the element is a queue. -/
def isQueue (e : Element) : Bool := e.factory == "queue"

/-- The queue that stands wherever frames are buffered: short, and dropping old frames. -/
def queue : Element :=
  (((Element.mk "queue" [] []).prop "max-size-buffers" "3").prop "max-size-time" "100000000").prop
    "leaky" "downstream"

/-- The parts of an element's text. -/
def words (e : Element) : List String :=
  e.factory :: e.props.map (fun p => p.1 ++ "=" ++ p.2.text) ++ e.fragments

/-- The element as it is written. -/
def text (e : Element) : String := " ".intercalate e.words

end Element
end CameraGraph
