import CameraGraph.Environment
import CameraGraph.FileTree
import CameraGraph.KeyedList
import CameraGraph.Number.Integer
import CameraGraph.Text.Alphanumeric
import CameraGraph.Text.Blank

/-!
# CameraGraph.Profile.EnvFile

Files of keys and values.

```text
# a comment
DECODE="decodebin3 ! vapostproc"   # quotes, escapes and comments as in a shell
export BATCH=8
PRE_PROCESS=backend=$BACKEND
```

A file is read in three layers. Its lines are joined where a quote or an escape is left open, and cut
where a comment starts. Each joined line is a key, an equals sign and a value, or nothing at all. A
value is read character by character: quotes, escapes, and names that stand for variables of the
environment or for earlier keys of the file.

The first line that breaks a rule spoils the whole file.
-/

namespace CameraGraph.EnvFile

/-- Why a file of keys and values was refused. -/
inductive Error where
  /-- A text breaks a rule at an index. -/
  | broken (text : List Char) (index : Nat)
  /-- The file cannot be read. -/
  | unreadable (cause : FileError)
  deriving Repr, DecidableEq

/-- The wording of an error. -/
def Error.message : Error → String
  | broken text index =>
    "Error parsing line: '" ++ String.ofList text ++ "', error at line index: " ++ natText index
  | unreadable cause => cause.message

/-! ### Lines -/

/-- Bytes cut behind every line feed. -/
def cutLines : List Nat → List (List Nat)
  | [] => []
  | b :: r =>
    if b = 0x0A then [b] :: cutLines r
    else match cutLines r with
      | [] => [[b]]
      | line :: rest => (b :: line) :: rest

/-- What a character of a line stands in. -/
inductive LineState where
  /-- Nothing in particular. -/
  | plain
  /-- After a blank, where a comment may start. -/
  | blank
  /-- After a backslash. -/
  | escape
  /-- Inside double quotes. -/
  | weak
  /-- After a backslash inside double quotes. -/
  | weakEscape
  /-- Inside single quotes. -/
  | strong
  /-- After a backslash inside single quotes. -/
  | strongEscape
  deriving Repr, DecidableEq

namespace LineState

/-- The state that a character opens, or else `default`. -/
def opened (c : Char) (default : LineState) : LineState :=
  if c = '\\' then .escape else if c = '"' then .weak else if c = '\'' then .strong else default

/-- The state behind a character. -/
def next : LineState → Char → LineState
  | plain, c =>
    if Text.isBlank c && c != '\n' && c != '\r' then .blank else opened c .plain
  | blank, c => opened c .plain
  | escape, _ => .plain
  | weak, c => if c = '\\' then .weakEscape else if c = '"' then .plain else .weak
  | weakEscape, _ => .weak
  | strong, c => if c = '\\' then .strongEscape else if c = '\'' then .plain else .strong
  | strongEscape, _ => .strong

/-- The characters before a comment, and the state behind the last of them if no comment starts. -/
def scan : LineState → List Char → List Char × Option LineState
  | s, [] => ([], some s)
  | s, c :: r =>
    if s = .blank && c = '#' then ([], none)
    else
      let (kept, final) := scan (s.next c) r
      (c :: kept, final)

end LineState

/-- A line without the line feed at its end, and without the carriage return before that. -/
def dropLineEnd (cs : List Char) : List Char :=
  match cs.reverse with
  | '\n' :: '\r' :: r => r.reverse
  | '\n' :: r => r.reverse
  | _ => cs

/-- Lines joined as long as something is left open, from `text` and the state behind it on. A text
that starts with a comment counts as an empty line. -/
def joinLines (text : List Char) (state : LineState) : List (List Nat) →
    List (Except Error (List Char))
  | [] => if state = .plain then [] else [.error (.broken text (Text.utf8Length text))]
  | line :: rest =>
    match Text.decodeUtf8 line with
    | none => [.error (.unreadable .notUtf8)]
    | some cs =>
      let grown := text ++ cs
      if (grown.dropWhile Text.isBlank).head? = some '#' then .ok [] :: joinLines [] .plain rest
      else match state.scan cs with
        | (kept, none) => .ok (text ++ kept) :: joinLines [] .plain rest
        | (_, some .plain) => .ok (dropLineEnd grown) :: joinLines [] .plain rest
        | (_, some state) => joinLines grown state rest

/-! ### Keys -/

/-- A place in a line: how many bytes lie before it, and the text from it on. -/
structure Cursor where
  /-- The number of bytes before. -/
  offset : Nat
  /-- The text to come. -/
  rest : List Char

namespace Cursor

/-- Behind all characters of a class. -/
def skip (c : Cursor) (drop : Char → Bool) : Cursor :=
  ⟨c.offset + Text.utf8Length (c.rest.takeWhile drop), c.rest.dropWhile drop⟩

/-- Whether there is nothing to come but a comment. -/
def atEnd (c : Cursor) : Bool := c.rest.isEmpty || c.rest.head? = some '#'

/-- Whether a key may start with a character. -/
def startsKey (c : Char) : Bool := c.isAlpha || c == '_'

/-- Whether a character may stand inside a key. -/
def continuesKey (c : Char) : Bool := c.isAlphanum || c == '_' || c == '.'

/-- A key and the blanks behind it. -/
def key? (c : Cursor) : Option (List Char × Cursor) :=
  if c.rest.head?.any startsKey then
    some (c.rest.takeWhile continuesKey, (c.skip continuesKey).skip Text.isBlank)
  else none

/-- An equals sign and the blanks behind it. -/
def equals? (c : Cursor) : Option Cursor :=
  match c.rest with
  | '=' :: r => some ((Cursor.mk (c.offset + 1) r).skip Text.isBlank)
  | _ => none

end Cursor

/-- The key of a line and the place behind its equals sign, or `none` for a line with nothing in it.
The word `export` may stand before a key, or be one. -/
def splitLine (line : List Char) : Except Error (Option (List Char × Cursor)) :=
  let fail (c : Cursor) : Error := .broken line c.offset
  let start := (Cursor.mk 0 (Text.trimEndChars line)).skip Text.isBlank
  if start.atEnd then .ok none
  else match start.key? with
    | none => .error (fail start)
    | some (key, c) =>
      match c.equals? with
      | some value => .ok (some (key, value))
      | none =>
        if key ≠ "export".toList then .error (fail c)
        else match c.key? with
          | none => .error (fail c)
          | some (key, c) =>
            match c.equals? with
            | some value => .ok (some (key, value))
            | none => .error (fail c)

/-! ### Values -/

/-- What a character of a value stands in. -/
inductive ValueMode where
  /-- Plain text, inside double quotes or outside. -/
  | text
  /-- After a backslash. -/
  | escape
  /-- Inside single quotes. -/
  | strong
  /-- After a dollar sign, in a name. -/
  | name (read : List Char)
  /-- After a dollar sign and a brace, in a name. -/
  | braced (read : List Char)
  /-- After the end of the value. -/
  | done
  /-- In a comment. -/
  | comment
  deriving Repr, DecidableEq

/-- A value that is being read. -/
structure ValueState where
  /-- What the next character stands in. -/
  mode : ValueMode := .text
  /-- Whether that is inside double quotes. -/
  weak : Bool := false
  /-- What the value holds so far. -/
  output : List Char := []
  deriving Repr, DecidableEq

namespace ValueState

/-- Adds plain characters. -/
def push (s : ValueState) (cs : List Char) : ValueState :=
  { s with mode := .text, output := s.output ++ cs }

/-- The state behind a character, or `none` where none may stand. A character that ends a name
without braces is taken as it is, whatever it would mean elsewhere. -/
def next? (lookup : List Char → List Char) (s : ValueState) (c : Char) : Option ValueState :=
  match s.mode with
  | .comment => some s
  | .done =>
    if c = ' ' || c = '\t' then some s
    else if c = '#' then some { s with mode := .comment }
    else none
  | .escape =>
    if ['\\', '\'', '"', '$', ' '].contains c then some (s.push [c])
    else if c = 'n' then some (s.push ['\n'])
    else none
  | .strong => some (if c = '\'' then s.push [] else { s.push [c] with mode := .strong })
  | .name read =>
    some (if Text.isAlphanumeric c then { s with mode := .name (read ++ [c]) }
      else if c = '\x7b' && read.isEmpty then { s with mode := .braced [] }
      else if c = '$' then { s.push (lookup read) with mode := .name [] }
      else s.push (lookup read ++ [c]))
  | .braced read =>
    some (if c = '\x7d' then s.push (lookup read) else { s with mode := .braced (read ++ [c]) })
  | .text =>
    some (if c = '$' then { s with mode := .name [] }
      else if c = '\\' then { s with mode := .escape }
      else if c = '"' then { s with weak := !s.weak }
      else if s.weak then s.push [c]
      else if c = '\'' then { s with mode := .strong }
      else if c = ' ' || c = '\t' then { s with mode := .done }
      else s.push [c])

/-- The value at the end of its text, or `none` if something is left open. -/
def finish? (lookup : List Char → List Char) (s : ValueState) : Option (List Char) :=
  if s.weak then none
  else match s.mode with
    | .strong => none
    | .braced _ => none
    | .name read => some (s.output ++ lookup read)
    | _ => some s.output

end ValueState

/-- The value that a text stands for. An error gives the index of a character, or the last byte if
the text breaks off. -/
def readValue (lookup : List Char → List Char) (text : List Char) : Except Error (List Char) := do
  let s ← text.zipIdx.foldlM (fun s c =>
    match s.next? lookup c.1 with
    | some s => .ok s
    | none => .error (Error.broken text c.2)) ({} : ValueState)
  match s.finish? lookup with
  | some value => return value
  | none => throw (.broken text (Text.utf8Length text - 1))

/-! ### Files -/

/-- What a name stands for: a variable, an earlier key, or nothing. -/
def substitute (env : Environment) (pairs : List (String × String)) (name : List Char) :
    List Char :=
  let name := String.ofList name
  (((env name).or (KeyedList.last? name pairs)).getD "").toList

/-- Adds the key of a line to those before it. -/
def addLine (env : Environment) (pairs : List (String × String)) (line : List Char) :
    Except Error (List (String × String)) := do
  match ← splitLine line with
  | none => return pairs
  | some (key, c) =>
    let value ← if c.atEnd then pure [] else readValue (substitute env pairs) c.rest
    return pairs ++ [(String.ofList key, String.ofList value)]

/-- The keys and values of a file, in order. -/
def parse (env : Environment) (bytes : List Nat) : Except Error (List (String × String)) :=
  (joinLines [] .plain (cutLines bytes)).foldlM (fun pairs line => do addLine env pairs (← line)) []

end CameraGraph.EnvFile
