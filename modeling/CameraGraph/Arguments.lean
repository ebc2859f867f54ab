/-!
# CameraGraph.Arguments

The command line.

```text
[COUNT] [--multiline] [-v | --verbose] [-h | --help]
```

Arguments are taken one by one, and the first bad one decides the error. The count may start with a
hyphen, as a negative number does: until there is a count, an argument is a flag only if it is one in
every letter. Behind `--` there are no flags.
-/

namespace CameraGraph

/-- What the command line asks for. -/
structure Arguments where
  /-- The count, as written. -/
  count : Option String := none
  /-- Whether every element gets a line of its own. -/
  multiline : Bool := false
  /-- Whether details are logged. -/
  verbose : Bool := false
  deriving Repr, DecidableEq

/-- Why a command line asks for no run. -/
inductive ArgumentError where
  /-- An argument that means nothing. -/
  | unknown
  /-- A value at a flag that takes none. -/
  | tooManyValues
  /-- A flag that is there twice. -/
  | conflict
  /-- The help was asked for. -/
  | help
  deriving Repr, DecidableEq

/-- The wording of an error; the help has none. -/
def ArgumentError.message : ArgumentError → Option String
  | unknown => some "unexpected argument"
  | tooManyValues => some "unexpected value for a flag"
  | conflict => some "a flag cannot be used multiple times"
  | help => none

/-- The flags. -/
inductive Flag where
  /-- Every element on a line of its own. -/
  | multiline
  /-- Details are logged. -/
  | verbose
  /-- The help is shown instead of a run. -/
  | help
  deriving Repr, DecidableEq

namespace Flag

/-- The flag of a name. -/
def ofName? (name : List Char) : Option Flag :=
  if name = "multiline".toList then some .multiline
  else if name = "verbose".toList then some .verbose
  else if name = "help".toList then some .help
  else none

/-- The flag of a letter. -/
def ofLetter? (c : Char) : Option Flag :=
  if c = 'v' then some .verbose else if c = 'h' then some .help else none

end Flag

namespace Arguments

/-- Sets a flag, once. -/
def setFlag (a : Arguments) : Flag → Except ArgumentError Arguments
  | .multiline => if a.multiline then .error .conflict else .ok { a with multiline := true }
  | .verbose => if a.verbose then .error .conflict else .ok { a with verbose := true }
  | .help => .error .help

/-- Sets the count, once. -/
def setCount (a : Arguments) (value : List Char) : Except ArgumentError Arguments :=
  if a.count.isSome then .error .unknown else .ok { a with count := some (String.ofList value) }

/-- Takes an argument that starts with two hyphens, which are left out here. -/
def takeLong (a : Arguments) (body : List Char) : Except ArgumentError Arguments :=
  let name := body.takeWhile (· ≠ '=')
  match Flag.ofName? name with
  | some flag => if name = body then a.setFlag flag else .error .tooManyValues
  | none => a.setCount ('-' :: '-' :: body)

/-- Takes letters behind one hyphen, as far as they are flags. -/
def takeLetters (a : Arguments) : List Char → Except ArgumentError Arguments
  | [] => .ok a
  | c :: rest => do
    match Flag.ofLetter? c with
    | some flag => (← a.setFlag flag).takeLetters rest
    | none => throw .unknown

/-- Takes an argument that starts with one hyphen, which is left out here. -/
def takeShort (a : Arguments) (letters : List Char) : Except ArgumentError Arguments :=
  if letters.isEmpty || (a.count.isNone && !letters.all fun c => (Flag.ofLetter? c).isSome) then
    a.setCount ('-' :: letters)
  else a.takeLetters letters

/-- Takes an argument. -/
def take (a : Arguments) (arg : List Char) : Except ArgumentError Arguments :=
  match arg with
  | '-' :: '-' :: body => a.takeLong body
  | '-' :: letters => a.takeShort letters
  | _ => a.setCount arg

/-- Takes arguments; after `--` there are no flags. -/
def takeAll (a : Arguments) : List String → Except ArgumentError Arguments
  | [] => .ok a
  | arg :: rest =>
    if arg = "--" then rest.foldlM (fun a arg => a.setCount arg.toList) a
    else do (← a.take arg.toList).takeAll rest

/-- The meaning of a command line. -/
def parse (args : List String) : Except ArgumentError Arguments := ({} : Arguments).takeAll args

end Arguments
end CameraGraph
