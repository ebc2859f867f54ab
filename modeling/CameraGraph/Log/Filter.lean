import CameraGraph.Environment
import CameraGraph.Log
import CameraGraph.Number.Integer
import CameraGraph.Text.Alphanumeric
import CameraGraph.Text.Blank
import CameraGraph.Text.Utf8

/-!
# CameraGraph.Log.Filter

Which entries of a log are shown.

A filter is a list of directives, written with commas between them: `warn` for everything, or
`target=debug` for entries whose origin starts with a name. Of the directives that fit an entry, the
one with the longest name decides, and of equal names the last. A directive may speak of spans, of
which a log has none; such a directive is accepted and shows nothing.

A filter that cannot be read is no filter at all, and one without directives shows errors only.
-/

namespace CameraGraph

/-- The rank of a level: a threshold shows the levels up to it. -/
def Level.rank : Level → Nat
  | error => 1
  | warn => 2
  | info => 3
  | debug => 4

/-- The program's own name in filters. -/
def Log.rootTarget : String := "gst_pipeline_generator"

/-- The name that filters know an origin by. -/
def Origin.target (origin : Origin) : String :=
  Log.rootTarget ++ match origin with
    | program => ""
    | diagnostics => "::diagnostics"
    | source => "::resolve::source"
    | device => "::resolve::device"
    | branch => "::compile::branch"
    | graph => "::orchestrator"

/-- One rule of a filter. -/
structure Directive where
  /-- The start of the names it is for; every name when it is empty. -/
  target : List Char := []
  /-- The highest rank that it shows. -/
  threshold : Nat := 5
  /-- Whether it speaks of spans, and so of no entry. -/
  spans : Bool := false
  deriving Repr, DecidableEq

namespace Directive

/-- The names of the thresholds, from nothing to everything. -/
def thresholdNames : List String := ["off", "error", "warn", "info", "debug", "trace"]

/-- The threshold that a text names, in letters or by its number. -/
def threshold? (cs : List Char) : Option Nat :=
  match unsigned? cs with
  | some n => if n ≤ 5 then some n else none
  | none => thresholdNames.findIdx? (·.toList = cs.map Char.toLower)

/-- A threshold after an equals sign, where nothing stands for everything. -/
def levelOf? (cs : List Char) : Option Nat := if cs.isEmpty then some 5 else threshold? cs

/-- Whether a directive may start with a character. -/
def mayStart (c : Char) : Bool :=
  Text.isAlphanumeric c || c == '-' || c == ':' || c == '_' || c == '['

/-- What follows the name of a span: fields in braces, which nothing depends on, and the bracket. -/
def afterSpan (cs : List Char) : Option (List Char) :=
  match cs.dropWhile fun c => c != ']' && c != '\x7b' with
  | ']' :: rest => some rest
  | '\x7b' :: rest =>
    match rest.span (· ≠ '\x7d') with
    | (fields, '\x7d' :: ']' :: rest) => if fields.isEmpty then none else some rest
    | _ => none
  | _ => none

/-- The directive that a text is. Blanks count: a name or a level with a blank at either end is
another one, and none may stand before a name that has a level. -/
def ofChars? (text : List Char) : Option Directive := do
  let trimmed := Text.stripChars Text.isBlank text
  guard (trimmed.head?.any mayStart)
  match text.span fun c => c != '=' && c != '[' with
  | (name, []) =>
    return match threshold? name with
      | some n => { threshold := n }
      | none => { target := name }
  | (name, '=' :: level) =>
    guard (!name.head?.any Text.isBlank)
    return { target := name, threshold := ← levelOf? level }
  | (name, _ :: span) =>
    match ← afterSpan span with
    | '=' :: level => return { target := name, threshold := ← levelOf? level, spans := true }
    | rest => if rest.all Text.isBlank then return { target := name, spans := true } else none

/-- Whether a directive is for a name. -/
def fits (d : Directive) (target : List Char) : Bool := !d.spans && d.target.isPrefixOf target

end Directive

/-- A filter: its directives in order. -/
abbrev LogFilter := List Directive

namespace LogFilter

/-- The filter that a text is. -/
def parse? (text : String) : Option LogFilter := do
  let pieces := (text.toList.splitOn ',').filter (!·.isEmpty)
  match ← pieces.mapM Directive.ofChars? with
  | [] => some [{ threshold := Level.error.rank }]
  | directives => some directives

/-- The filter of a run without one of its own: notices and worse, and details on request. -/
def standard (verbose : Bool) : LogFilter :=
  [{ target := Log.rootTarget.toList
     threshold := if verbose then Level.debug.rank else Level.info.rank }]

/-- The filter of a run. -/
def ofEnvironment (env : Environment) (verbose : Bool) : LogFilter :=
  ((env "RUST_LOG").bind parse?).getD (standard verbose)

/-- The directive that decides on a name: the longest that fits, the last of equally long ones. -/
def decisive (f : LogFilter) (target : List Char) : Option Directive :=
  (f.filter (·.fits target)).foldl (fun best d =>
    if best.all fun b => b.target.length ≤ d.target.length then some d else best) none

/-- Whether an entry is shown. -/
def shows (f : LogFilter) (e : Entry) : Bool :=
  (f.decisive e.origin.target.toList).any fun d => e.level.rank ≤ d.threshold

/-- The entries that are shown. -/
def select (f : LogFilter) (log : Log) : Log := log.filter f.shows

end LogFilter
end CameraGraph
