import CameraGraph.Url.Host

/-!
# CameraGraph.Url.Parser

Web addresses, as browsers read them.

A text is split into scheme, host, port, path and query; user information and fragment are read over.
A *special* scheme always has a host, takes backslashes for slashes and drops its default port. The
scheme `file` has a host that may be empty and a path that may start with a drive letter. Any other
scheme has an opaque host, or an opaque path when no slash follows it.

Dots in a path are resolved while it is read, so a path is kept as the list of its segments until it
is complete.
-/

namespace CameraGraph

/-- A web address, without its user information and fragment. -/
structure Url where
  /-- The scheme, lower-cased. -/
  scheme : String
  /-- The host as it is written back. -/
  host : Option String
  /-- The port, unless it is the default of the scheme. -/
  port : Option Nat
  /-- The path as it is written back. -/
  path : String
  /-- The query as it is written back. -/
  query : Option String
  deriving Repr, DecidableEq

namespace Url

/-- The three kinds of scheme. -/
inductive SchemeKind where
  /-- Web and file transfer schemes. -/
  | special
  /-- The scheme `file`. -/
  | file
  /-- Any other. -/
  | other
  deriving Repr, DecidableEq

namespace SchemeKind

/-- The kind of a scheme. -/
def of (scheme : String) : SchemeKind :=
  if scheme = "file" then file
  else if ["http", "https", "ws", "wss", "ftp"].contains scheme then special
  else other

/-- Whether a backslash is a slash. -/
def isSpecial : SchemeKind → Bool
  | other => false
  | _ => true

/-- Whether a character separates the segments of a path. -/
def isSlash (kind : SchemeKind) (c : Char) : Bool := c == '/' || (c == '\\' && kind.isSpecial)

end SchemeKind

/-- The port that a scheme has anyway. -/
def defaultPort (scheme : String) : Option Nat :=
  if scheme = "http" || scheme = "ws" then some 80
  else if scheme = "https" || scheme = "wss" then some 443
  else if scheme = "ftp" then some 21
  else none

/-! ### Scheme -/

/-- The rest of a scheme, lower-cased, with the text after its colon. -/
def schemeTail : List Char → Option (List Char × List Char)
  | [] => none
  | c :: r =>
    if c = ':' then some ([], r)
    else if c.isAlphanum || c == '+' || c == '-' || c == '.' then
      (schemeTail r).map fun p => (c.toLower :: p.1, p.2)
    else none

/-- A scheme, which starts with a letter, with the text after its colon. -/
def scheme? (s : List Char) : Option (String × List Char) :=
  match s with
  | c :: _ => if c.isAlpha then (schemeTail s).map fun p => (String.ofList p.1, p.2) else none
  | [] => none

/-! ### Authority -/

/-- Whether a character ends the authority. -/
def endsAuthority (kind : SchemeKind) (c : Char) : Bool :=
  kind.isSlash c || c == '?' || c == '#'

/-- The text after the last at sign of an authority, with the text before it. -/
def lastAt (kind : SchemeKind) (s : List Char) : Option (List Char × List Char) :=
  let authority := s.takeWhile (!endsAuthority kind ·)
  match authority.reverse.span (· ≠ '@') with
  | (_, []) => none
  | (after, _ :: before) => some (before.reverse, s.drop (authority.length - after.length))

/-- Whether a text before an at sign holds a user name or a password. -/
def hasCredentials (userInfo : List Char) : Bool :=
  match userInfo.dropWhile (· ≠ ':') with
  | [] => userInfo ≠ []
  | _ :: password => userInfo.head? ≠ some ':' || password ≠ []

/-- The text after the user information, and whether there were credentials in it. -/
def skipUserInfo (kind : SchemeKind) (s : List Char) : Except Error (Bool × List Char) :=
  match lastAt kind s with
  | none => .ok (false, s)
  | some ([], r) =>
    match r with
    | c :: _ => if endsAuthority kind c then .error .emptyHost else .ok (false, r)
    | [] => .ok (false, r)
  | some (userInfo, r) => .ok (hasCredentials userInfo, r)

/-- The characters of a host, up to a colon outside brackets or the end of the authority, with the
text after them. -/
def hostText (kind : SchemeKind) (inBrackets : Bool) : List Char → List Char × List Char
  | [] => ([], [])
  | c :: r =>
    if endsAuthority kind c || (c == ':' && !inBrackets) then ([], c :: r)
    else
      let inBrackets := if c = '[' then true else if c = ']' then false else inBrackets
      let (host, r) := hostText kind inBrackets r
      (c :: host, r)

/-- The digits of a port, with the text after them. A backslash ends a port of any scheme. -/
def portText (s : List Char) : Except Error (Option Nat × List Char) :=
  let (digits, r) := s.span Char.isDigit
  let n := digitsValue digits
  if 0xFFFF < n then .error .port
  else match r with
    | c :: _ =>
      if ['/', '\\', '?', '#'].contains c then
        .ok (if digits = [] then none else some n, r)
      else .error .port
    | [] => .ok (if digits = [] then none else some n, r)

/-- Host and port of an authority after its user information, with the text after them. -/
def hostAndPort (scheme : String) (kind : SchemeKind) (s : List Char) :
    Except Error (List Char × Option Nat × List Char) := do
  let (written, r) := hostText kind false s
  let host ←
    if kind = .special then if written = [] then throw .emptyHost else specialHost written
    else opaqueHost written
  match r with
  | ':' :: r =>
    if host = [] then throw .emptyHost
    let (port, r) ← portText r
    return (host, if port = defaultPort scheme then none else port, r)
  | r => return (host, none, r)

/-! ### Path -/

/-- A letter and a colon or bar. -/
def isDriveLetter : List Char → Bool
  | [a, b] => a.isAlpha && (b == ':' || b == '|')
  | _ => false

/-- Whether a segment keeps the slash after it from being removed: it starts with a drive letter. -/
def startsWithDriveLetter : List Char → Bool
  | a :: b :: r =>
    a.isAlpha && (b == ':' || b == '|') &&
      (match r with
        | [] => true
        | c :: _ => ['/', '\\', '?', '#'].contains c)
  | _ => false

/-- A segment that stands for the one it is in. -/
def isSingleDot (segment : List Char) : Bool :=
  segment == ['.'] || segment == ['%', '2', 'e'] || segment == ['%', '2', 'E']

/-- A segment that stands for the one before. -/
def isDoubleDot (segment : List Char) : Bool :=
  match segment with
  | '.' :: r => isSingleDot r
  | '%' :: '2' :: e :: r => (e == 'e' || e == 'E') && isSingleDot r
  | _ => false

/-- The segments left after going up one. A drive letter stays. -/
def goUp (segments : List (List Char)) : List (List Char) :=
  match segments.getLast? with
  | some last => if startsWithDriveLetter last then segments else segments.dropLast
  | none => segments

/-- A path as it is read. -/
structure PathRead where
  /-- The complete segments. -/
  segments : List (List Char)
  /-- The last segment, which may be empty. -/
  last : List Char
  /-- Whether the host stands: a drive letter in front of a file path takes its place. -/
  keepsHost : Bool

/-- Adds a segment, and says whether it completes the path. -/
def PathRead.add (kind : SchemeKind) (p : PathRead) (segment : List Char) (ends : Bool) :
    PathRead :=
  if isDoubleDot segment then { p with segments := goUp p.segments, last := [] }
  else if isSingleDot segment then { p with last := [] }
  else
    let drive := kind = .file && p.segments.isEmpty && isDriveLetter segment
    let segment := if drive then segment.take 1 ++ [':'] else segment
    let p := { p with keepsHost := p.keepsHost && !drive }
    if ends then { p with last := segment }
    else { p with segments := p.segments ++ [segment], last := [] }

/-- Reads the segments of a path, its first slash left out; `segment` holds the characters of the
current one, last one first. -/
def pathSegments (kind : SchemeKind) (p : PathRead) (segment : List Char) : List Char → PathRead
  | [] => p.add kind (encode inPathSet segment.reverse) true
  | c :: r =>
    if kind.isSlash c then
      pathSegments kind (p.add kind (encode inPathSet segment.reverse) false) [] r
    else pathSegments kind p (c :: segment) r

/-- The text of a path that has been read. A file path has no empty segments in front. -/
def PathRead.text (kind : SchemeKind) (p : PathRead) : List Char :=
  let segments := p.segments ++ [p.last]
  let segments := if kind = .file then
      match segments.dropWhile (· = []) with
      | [] => [[]]
      | segments => segments
    else segments
  '/' :: ['/'].intercalate segments

/-- The path in a text up to its query, its first slash left out. -/
def readPath (kind : SchemeKind) (s : List Char) : PathRead :=
  pathSegments kind ⟨[], [], true⟩ [] s

/-! ### Query -/

/-- The path part of a text, and its query. -/
structure Tail where
  /-- What stands before the query. -/
  before : List Char
  /-- What stands between the question mark and the fragment. -/
  query : Option (List Char)

/-- Splits off the fragment and the query. -/
def splitTail (s : List Char) : Tail :=
  let s := s.takeWhile (· ≠ '#')
  match s.span (· ≠ '?') with
  | (before, []) => ⟨before, none⟩
  | (before, _ :: query) => ⟨before, some query⟩

/-- The query as it is written back. -/
def Tail.queryText (kind : SchemeKind) (t : Tail) : Option String :=
  t.query.map fun q => String.ofList (encode (inQuerySet kind.isSpecial) q)

/-! ### The whole address -/

/-- Drops the first slash of a path, if there is one. -/
def dropSlash (kind : SchemeKind) : List Char → List Char
  | [] => []
  | c :: r => if kind.isSlash c then r else c :: r

/-- The text of a host that is there. -/
def hostOf (host : List Char) : Option String :=
  if host = [] then none else some (String.ofList host)

/-- The address of a scheme with an authority, after its two slashes. -/
def withAuthority (scheme : String) (kind : SchemeKind) (s : List Char) : Except Error Url := do
  let (credentials, r) ← skipUserInfo kind s
  let (host, port, r) ← hostAndPort scheme kind r
  if host = [] && credentials then throw .emptyHost
  let tail := splitTail r
  let path :=
    if tail.before = [] && kind = .other then []
    else (readPath kind (dropSlash kind tail.before)).text kind
  return { scheme, host := hostOf host, port, path := String.ofList path,
           query := tail.queryText kind }

/-- The address of a scheme that is not special, after its colon. -/
def nonSpecial (scheme : String) (s : List Char) : Except Error Url :=
  match s with
  | '/' :: '/' :: r => withAuthority scheme .other r
  | '/' :: r =>
    let tail := splitTail r
    .ok { scheme, host := none, port := none, query := tail.queryText .other,
          path := String.ofList ((readPath .other tail.before).text .other) }
  | s =>
    let tail := splitTail s
    .ok { scheme, host := none, port := none, query := tail.queryText .other,
          path := String.ofList (encode isControl tail.before) }

/-- A file address of a host that has been read and the text after it. -/
def fileWithHost (host : Option String) (s : List Char) : Url :=
  let tail := splitTail s
  let path := readPath .file (dropSlash .file tail.before)
  { scheme := "file", host := if path.keepsHost then host else none, port := none,
    path := String.ofList (path.text .file), query := tail.queryText .file }

/-- The host of a file address: everything up to a slash, unless that is a drive letter. -/
def fileHost (s : List Char) : Except Error (Option String × List Char) := do
  let written := s.takeWhile (!endsAuthority .file ·)
  if written = [] || isDriveLetter written then return (none, s)
  let host ← specialHost written
  let host := if host = "localhost".toList then none else some (String.ofList host)
  return (host, s.drop written.length)

/-- The address of the scheme `file`, after its colon. -/
def file (s : List Char) : Except Error Url :=
  match s with
  | a :: b :: r =>
    if SchemeKind.file.isSlash a && SchemeKind.file.isSlash b then do
      let (host, r) ← fileHost r
      return fileWithHost host r
    else .ok (fileWithHost none s)
  | s => .ok (fileWithHost none s)

/-- A text without what the reader ignores: controls and spaces at both ends, tabs and line ends
everywhere. -/
def clean (s : List Char) : List Char :=
  let drop (c : Char) : Bool := c.toNat ≤ 0x20
  let trimmed := ((s.dropWhile drop).reverse.dropWhile drop).reverse
  trimmed.filter fun c => !(c == '\t' || c == '\n' || c == '\r')

/-- Reads a web address. -/
def parse (text : String) : Except Error Url :=
  match scheme? (clean text.toList) with
  | none => .error .noScheme
  | some (scheme, r) =>
    match SchemeKind.of scheme with
    | .file => file r
    | .special => withAuthority scheme .special (r.dropWhile SchemeKind.special.isSlash)
    | .other => nonSpecial scheme r

end Url
end CameraGraph
