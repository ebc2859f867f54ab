import CameraGraph.Number.Integer
import CameraGraph.Url.Percent

/-!
# CameraGraph.Url.Ip

Internet addresses as hosts.

A version 4 address is one number, which may be written in one to four parts, each decimal, octal or
hexadecimal, the last part filling whatever the others leave. A version 6 address is eight pieces of
sixteen bits, where one run of zero pieces may be left out and the last two pieces may be written as
a version 4 address. Written back, both take their one canonical form.
-/

namespace CameraGraph.Url

/-! ### Version 4 -/

/-- The number that digits of a base denote, or `none` if one is no such digit. -/
def digitsIn (base : Nat) (cs : List Char) : Option Nat :=
  cs.foldlM (fun n c => do
    let d ← hexValue? c
    if d < base then some (base * n + d) else none) 0

/-- The number of one part: hexadecimal after `0x`, octal after a leading zero, decimal otherwise.
Nothing after `0x` is zero. -/
def ipv4Part? : List Char → Option Nat
  | [] => none
  | '0' :: 'x' :: r => digitsIn 16 r
  | '0' :: 'X' :: r => digitsIn 16 r
  | ['0'] => some 0
  | '0' :: r => digitsIn 8 r
  | cs => digitsIn 10 cs

/-- The parts of a host between its dots, without an empty last one. -/
def ipv4Parts (host : List Char) : List (List Char) :=
  let parts := host.splitOn '.'
  if 1 < parts.length && parts.getLast? = some [] then parts.dropLast else parts

/-- Whether the last part of a host is a number, which makes the host a version 4 address or wrong. -/
def endsInNumber (host : List Char) : Bool :=
  match (ipv4Parts host).getLast? with
  | none => false
  | some last => (last ≠ [] && last.all Char.isDigit) || (ipv4Part? last).isSome

/-- The address of one to four parts: each but the last is one byte, the last all bytes left. -/
def ipv4? (host : List Char) : Option Nat := do
  let parts := ipv4Parts host
  if 4 < parts.length then none
  let numbers ← parts.mapM ipv4Part?
  let last ← numbers.getLast?
  let bytes := numbers.dropLast
  if bytes.any (255 < ·) || Nat.pow 256 (4 - bytes.length) ≤ last then none
  return bytes.zipIdx.foldl (fun n b => n + b.1 * Nat.pow 256 (3 - b.2)) last

/-- The four bytes of an address, with dots between them. -/
def ipv4Text (n : Nat) : List Char :=
  ['.'].intercalate
    ([n / 0x1000000, n / 0x10000 % 256, n / 256 % 256, n % 256].map natDigits)

/-! ### Version 6 -/

/-- A byte in decimal, without leading zeros. -/
def plainByte? (cs : List Char) : Option Nat :=
  match cs with
  | ['0'] => some 0
  | '0' :: _ => none
  | cs => (natural? cs).filter (· ≤ 255)

/-- The two pieces of a version 4 address at the end of a version 6 address. -/
def embeddedPieces? (s : List Char) : Option (List Nat) := do
  match ← (s.splitOn '.').mapM plainByte? with
  | [a, b, c, d] => return [a * 256 + b, c * 256 + d]
  | _ => none

/-- The pieces read so far, and how many of them stand before the run that is left out. -/
structure PiecesRead where
  /-- The pieces. -/
  pieces : List Nat
  /-- The place of the run that is left out. -/
  gap : Option Nat

/-- Reads pieces, with room for `room` of them. -/
def ipv6Pieces (room : Nat) (done : PiecesRead) (s : List Char) : Option PiecesRead :=
  match room, s with
  | _, [] => some done
  | 0, _ => none
  | room + 1, ':' :: r =>
    if done.gap.isSome then none
    else ipv6Pieces room ⟨done.pieces ++ [0], some (done.pieces.length + 1)⟩ r
  | room + 1, s =>
    let digits := (s.take 4).takeWhile fun c => (hexValue? c).isSome
    let piece := (digitsIn 16 digits).getD 0
    match s.drop digits.length with
    | [] => some ⟨done.pieces ++ [piece], done.gap⟩
    | [':'] => none
    | ':' :: r => ipv6Pieces room ⟨done.pieces ++ [piece], done.gap⟩ r
    | '.' :: _ =>
      if digits = [] || room = 0 then none
      else (embeddedPieces? s).map fun two => ⟨done.pieces ++ two, done.gap⟩
    | _ => none

/-- The eight pieces of an address. A gap stands for one zero piece at least. -/
def ipv6? (s : List Char) : Option (List Nat) := do
  let read ← match s with
    | ':' :: ':' :: r => ipv6Pieces 7 ⟨[0], some 1⟩ r
    | [] | [_] | ':' :: _ => none
    | s => ipv6Pieces 8 ⟨[], none⟩ s
  match read.gap with
  | some gap =>
    let zeros := List.replicate (8 - read.pieces.length) 0
    return read.pieces.take gap ++ zeros ++ read.pieces.drop gap
  | none => if read.pieces.length = 8 then return read.pieces else none

/-- The length of the run of zeros at the front of a list. -/
def zeroRun (pieces : List Nat) : Nat := (pieces.takeWhile (· == 0)).length

/-- The place and length of the first longest run of two zero pieces or more. -/
def longestGap (pieces : List Nat) : Option (Nat × Nat) :=
  (List.range pieces.length).foldl (fun best i =>
    let n := zeroRun (pieces.drop i)
    if (best.elim 1 (·.2)) < n then some (i, n) else best) none

/-- Pieces in hexadecimal, with colons between them. -/
def piecesText (pieces : List Nat) : List Char :=
  [':'].intercalate (pieces.map (Nat.toDigits 16))

/-- The pieces of an address, its longest gap left out. -/
def ipv6Text (pieces : List Nat) : List Char :=
  match longestGap pieces with
  | none => piecesText pieces
  | some (i, n) => piecesText (pieces.take i) ++ [':', ':'] ++ piecesText (pieces.drop (i + n))

end CameraGraph.Url
