import CameraGraph.Path
import CameraGraph.Text.Utf8

/-!
# CameraGraph.FileTree

Files and directories as data.

A tree says what lies at each place, where a place is a list of names seen from the root, from the
working directory, or from a directory above it. Directories above a listed file need not be listed
themselves. Paths are followed name by name, as they are written: every name but the last has to be a
directory, and so has everything before a slash at the end, before `.` and before `..`.

A run reads files through a `Disk`, which is no more than the answers to its questions; `FileTree.disk`
gives the answers of a tree.
-/

namespace CameraGraph

/-- Why a file or a directory cannot be used. -/
inductive FileError where
  /-- There is nothing of this name. -/
  | missing
  /-- There is something of this name already. -/
  | occupied
  /-- A file stands where a directory is needed. -/
  | notDirectory
  /-- A directory stands where a file is needed. -/
  | isDirectory
  /-- A name or the whole path is too long. -/
  | tooLong
  /-- The path holds a null character. -/
  | nullCharacter
  /-- The content is not well-formed UTF-8. -/
  | notUtf8
  /-- Any other reason, in the words it was given in. -/
  | other (text : String)
  deriving Repr, DecidableEq

/-- The wording of a reason. -/
def FileError.message : FileError → String
  | missing => "No such file or directory (os error 2)"
  | occupied => "File exists (os error 17)"
  | notDirectory => "Not a directory (os error 20)"
  | isDirectory => "Is a directory (os error 21)"
  | tooLong => "File name too long (os error 36)"
  | nullCharacter => "file name contained an unexpected NUL byte"
  | notUtf8 => "stream did not contain valid UTF-8"
  | other text => text

/-- What a run asks about files. -/
structure Disk where
  /-- The bytes of a file. -/
  read : Path → Except FileError (List Nat)
  /-- Whether there is anything at a path. -/
  has : Path → Bool

/-- The text of a file. -/
def Disk.readText (d : Disk) (path : Path) : Except FileError String := do
  match Text.textOfBytes (← d.read path) with
  | some text => return text
  | none => throw .notUtf8

/-- What lies at a place. -/
inductive FileNode where
  /-- A file with its bytes. -/
  | file (bytes : List Nat)
  /-- A directory. -/
  | directory
  deriving Repr, DecidableEq

/-- A directory that is there without being listed. -/
inductive Anchor where
  /-- The root. -/
  | root
  /-- The directory this many levels above the working directory. -/
  | above (levels : Nat)
  deriving Repr, DecidableEq

/-- A place in a tree: names from an anchor on. -/
structure FilePlace where
  /-- Where the names start. -/
  anchor : Anchor
  /-- The names, outermost first. -/
  names : List String
  deriving Repr, DecidableEq

namespace FilePlace

/-- The place where the names of a path start. -/
def start (path : Path) : FilePlace :=
  if path.toList.head? = some '/' then ⟨.root, []⟩ else ⟨.above 0, []⟩

/-- The directory that holds a place. The root holds itself. -/
def parent (p : FilePlace) : FilePlace :=
  match p.names, p.anchor with
  | [], .root => p
  | [], .above n => ⟨.above (n + 1), []⟩
  | names, anchor => ⟨anchor, names.dropLast⟩

/-- The place that a name means, seen from a directory. -/
def step (p : FilePlace) (name : String) : FilePlace :=
  if name = "" || name = "." then p
  else if name = ".." then p.parent
  else { p with names := p.names ++ [name] }

end FilePlace

/-- Files and directories. -/
structure FileTree where
  /-- What is listed, by place. -/
  entries : List (FilePlace × FileNode)

namespace FileTree

/-- The tree of files and directories below the working directory. -/
def ofEntries (entries : List (Path × FileNode)) : FileTree :=
  ⟨entries.map fun e =>
    (((Path.segments e.1.toList).map String.ofList).foldl FilePlace.step ⟨.above 0, []⟩, e.2)⟩

/-- What lies at a place. Anchors and whatever holds a listed place are directories. -/
def node? (t : FileTree) (p : FilePlace) : Option FileNode :=
  match t.entries.lookup p with
  | some node => some node
  | none =>
    if p.names = [] || t.entries.any fun e => e.1.anchor = p.anchor && p.names.isPrefixOf e.1.names
    then some .directory else none

/-- Whether a name is longer than a directory can hold. -/
def nameTooLong (name : String) : Bool := 255 < Text.utf8Length name.toList

/-- The place that names lead to. Nothing need lie there, but all before it has to be a directory. -/
def follow (t : FileTree) (p : FilePlace) : List String → Except FileError FilePlace
  | [] => .ok p
  | name :: rest =>
    match t.node? p with
    | none => .error .missing
    | some (.file _) => .error .notDirectory
    | some .directory => if nameTooLong name then .error .tooLong else t.follow (p.step name) rest

/-- What makes a path unusable whatever the tree holds. -/
def pathFault (path : Path) : Option FileError :=
  if path.toList.contains '\x00' then some .nullCharacter
  else if path.isEmpty then some .missing
  else if 4095 < Text.utf8Length path.toList then some .tooLong
  else none

/-- The place that a path leads to. -/
def locate (t : FileTree) (path : Path) : Except FileError FilePlace :=
  match pathFault path with
  | some e => .error e
  | none => t.follow (.start path) ((Path.segments path.toList).map String.ofList)

/-- The bytes of the file at a path. -/
def read (t : FileTree) (path : Path) : Except FileError (List Nat) := do
  match t.node? (← t.locate path) with
  | none => throw .missing
  | some .directory => throw .isDirectory
  | some (.file bytes) => return bytes

/-- Whether there is anything at a path. -/
def has (t : FileTree) (path : Path) : Bool :=
  match t.locate path with
  | .ok p => (t.node? p).isSome
  | .error _ => false

/-- What a tree answers. -/
def disk (t : FileTree) : Disk := ⟨t.read, t.has⟩

/-! ### New directories -/

/-- Adds one directory inside another that is there already. -/
def addDirectory (t : FileTree) (start : FilePlace) (above : List String) (name : String) :
    Except FileError FileTree := do
  let p ← t.follow start (above ++ [name])
  match t.node? p with
  | some _ => throw .occupied
  | none => return ⟨t.entries ++ [(p, .directory)]⟩

/-- Whether names lead to a directory. -/
def leadsToDirectory (t : FileTree) (start : FilePlace) (names : List String) : Bool :=
  match t.follow start names with
  | .ok p => t.node? p = some .directory
  | .error _ => false

/-- Adds a directory that may be there already. -/
def ensureDirectory (t : FileTree) (start : FilePlace) (above : List String) (name : String) :
    FileTree × Option FileError :=
  match t.addDirectory start above name with
  | .ok t => (t, none)
  | .error e => (t, if t.leadsToDirectory start (above ++ [name]) then none else some e)

/-- Adds the directory that names lead to, innermost name first, with all that are missing above it.
What was added above stays even if a name further down cannot be added. -/
def ensureDirectories (t : FileTree) (start : FilePlace) :
    List String → FileTree × Option FileError
  | [] => (t, none)
  | name :: outer =>
    match t.ensureDirectory start outer.reverse name with
    | (t, some .missing) =>
      match t.ensureDirectories start outer with
      | (t, some e) => (t, some e)
      | (t, none) => t.ensureDirectory start outer.reverse name
    | result => result

/-- The names of a path, outermost first, without those that lead nowhere. -/
def namesOf (path : Path) : List String :=
  ((Path.segments path.toList).map String.ofList).filter fun n => n != "" && n != "."

/-- Adds the directory at a path, with all that are missing above it. -/
def createDirectories (t : FileTree) (path : Path) : FileTree × Option FileError :=
  if path.isEmpty then (t, none)
  else match pathFault path with
    | some e => (t, some e)
    | none => t.ensureDirectories (.start path) (namesOf path).reverse

end FileTree
end CameraGraph
