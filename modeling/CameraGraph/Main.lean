import CameraGraph.Program
import Std.Time

/-!
# CameraGraph.Main

The command line program.

It looks at everything a run depends on, once: the arguments, the environment, the clock, and the
files that a run of these settings reads. What it sees is data for `Program.run`, which decides
everything else. The command goes to standard output, diagnostics go to standard error.
-/

namespace CameraGraph.Shell

/-- The number and the words of a failure. -/
def reason : IO.Error → Nat × String
  | .alreadyExists _ n s | .noFileOrDirectory _ n s | .invalidArgument _ n s
  | .permissionDenied _ n s | .resourceExhausted _ n s | .inappropriateType _ n s
  | .noSuchThing _ n s | .interrupted _ n s | .otherError n s | .resourceBusy n s
  | .resourceVanished n s | .unsupportedOperation n s | .hardwareFault n s
  | .unsatisfiedConstraints n s | .illegalOperation n s | .protocolError n s | .timeExpired n s =>
    (if n < 0x80000000 then n.toNat else 0x100000000 - n.toNat, s)
  | .unexpectedEof => (0, "unexpected end of file")
  | .userError s => (0, s)

/-- A failure as a run knows it. -/
def fileError (e : IO.Error) : FileError :=
  match reason e with
  | (2, _) => .missing
  | (17, _) => .occupied
  | (20, _) => .notDirectory
  | (21, _) => .isDirectory
  | (36, _) => .tooLong
  | (n, words) => .other (words ++ " (os error " ++ natText n ++ ")")

/-- The bytes of a file. -/
def readBytes (path : Path) : IO (Except FileError (List Nat)) := do
  if path.toList.contains '\x00' then return .error .nullCharacter
  try
    return .ok ((← IO.FS.readBinFile path).toList.map UInt8.toNat)
  catch e => return .error (fileError e)

/-- Whether what became of reading a path shows that there is something. -/
def isThere : Except FileError (List Nat) → Bool
  | .error .missing | .error .notDirectory | .error .tooLong | .error .nullCharacter => false
  | _ => true

/-- What some paths hold. -/
def lookAt (paths : List Path) : IO Disk := do
  let seen ← paths.mapM fun p => return (p, ← readBytes p)
  let read (p : Path) := (KeyedList.last? p seen).getD (.error .missing)
  return { read, has := fun p => isThere (read p) }

/-- The paths that a run of these settings reads. -/
def pathsOf (settings : Settings) : List Path :=
  [settings.cameraDocumentPath, settings.workloadDocumentPath] ++
    Profiles.deviceFiles.map fun f => settings.deviceProfileDir.join f.2

/-- Whether there is a directory at a path. -/
def isDirectory (path : Path) : IO Bool := do
  try (← IO.FS.realPath path).isDir
  catch _ => return false

/-- Creates a directory that may be there already. -/
def ensureDirectory (path : Path) : IO (Option FileError) := do
  try
    IO.FS.createDir path
    return none
  catch e =>
    if ← isDirectory path then return none else return some (fileError e)

/-- Creates the directory that names lead to, innermost name first, with all that are missing above
it. -/
def ensureDirectories (start : Path) : List String → IO (Option FileError)
  | [] => return none
  | name :: outer => do
    let path := outer.foldr (fun name path => path.join name) start |>.join name
    match ← ensureDirectory path with
    | some .missing =>
      match ← ensureDirectories start outer with
      | some e => return some e
      | none => ensureDirectory path
    | result => return result

/-- Creates the directory at a path, with all that are missing above it. -/
def createDirectories (path : Path) : IO (Option FileError) :=
  ensureDirectories (if path.toList.head? = some '/' then "/" else "")
    (FileTree.namesOf path).reverse

/-- The variables of the process. Text that is not UTF-8 counts as not set. -/
def environment : IO Environment := do
  let bytes ← IO.FS.readBinFile "/proc/self/environ"
  let texts := (bytes.toList.map UInt8.toNat).splitOn 0 |>.filterMap Text.decodeUtf8
  let pairs := texts.map fun cs =>
    let (name, value) := Text.cut '=' cs
    (String.ofList name, String.ofList (value.getD []))
  return fun name => KeyedList.first? name pairs

/-- The time as result files are named by it. -/
def now : IO String := do
  return (Std.Time.DateTime.ofTimestamp (← Std.Time.Timestamp.now) .UTC).format "uuuuMMddHHmmss"

/-- The name of a level, as wide as the widest. -/
def levelText : Level → String
  | .error => "ERROR"
  | .warn => " WARN"
  | .info => " INFO"
  | .debug => "DEBUG"

/-- What comes of a command line. -/
def outcome (args : List String) : IO Outcome := do
  match Arguments.parse args with
  | .error e =>
    if let some message := e.message then IO.eprintln ("error: " ++ message)
    return Program.refusal e
  | .ok arguments =>
    let env ← environment
    let settings := Settings.ofEnvironment env (← now)
    let results ← createDirectories settings.resultsDir
    return Program.run arguments env settings results (← lookAt (pathsOf settings))

end CameraGraph.Shell

/-- Runs the program. -/
def main (args : List String) : IO UInt32 := do
  let outcome ← CameraGraph.Shell.outcome args
  for e in outcome.log do
    IO.eprintln (CameraGraph.Shell.levelText e.level ++ " " ++ e.text)
  IO.print outcome.output
  return outcome.status.toUInt32
