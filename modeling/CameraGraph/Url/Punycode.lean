/-!
# CameraGraph.Url.Punycode

Text beyond ASCII, spelled in letters, digits and hyphens.

The ASCII characters of a text come first, then a hyphen, then the others in the order of their code
points. Each is given by how many steps lie between it and the one before, counting through all code
points at all places of the text. Steps are written in digits of base 36, whose thresholds follow the
size of the numbers seen so far.
-/

namespace CameraGraph.Url.Punycode

/-- The greatest digit that ends a number at a position; a greater one says that more follow. -/
def threshold (bias position : Nat) : Nat := min 26 (max 1 (position - bias))

/-- Divides by 35 until no more than 455 is left, adding 36 to `bias` each time. -/
def shrink (delta bias : Nat) : Nat :=
  if 455 < delta then shrink (delta / 35) (bias + 36) else bias + 36 * delta / (delta + 38)
termination_by delta

/-- The bias after a number, where the text has `length` characters by now. -/
def adapt (delta length : Nat) (isFirst : Bool) : Nat :=
  let delta := if isFirst then delta / 700 else delta / 2
  shrink (delta + delta / length) 0

/-! ### Reading -/

/-- The value of a digit. -/
def digitValue? (c : Char) : Option Nat :=
  if c.isDigit then some (c.toNat - 0x30 + 26)
  else if c.isAlpha then some (c.toLower.toNat - 0x61)
  else none

/-- A text that is being read. -/
structure Reading where
  /-- The text so far. -/
  output : List Nat
  /-- The code point of the last character. -/
  code : Nat := 128
  /-- The place behind the last character. -/
  place : Nat := 0
  /-- The bias of the number being read. -/
  bias : Nat := 72
  /-- The position of its next digit. -/
  position : Nat := 36
  /-- The weight of its next digit. -/
  weight : Nat := 1
  /-- The number so far. -/
  delta : Nat := 0

namespace Reading

/-- Puts in the character that a whole number leads to. -/
def insert (r : Reading) (delta : Nat) : Reading :=
  let length := r.output.length + 1
  let steps := r.place + delta
  let code := r.code + steps / length
  { output := r.output.insertIdx (steps % length) code
    code
    place := steps % length + 1
    bias := adapt delta length (r.place = 0) }

/-- Reads a digit. -/
def next? (r : Reading) (c : Char) : Option Reading := do
  let digit ← digitValue? c
  let delta := r.delta + digit * r.weight
  let t := threshold r.bias r.position
  if digit < t then return r.insert delta
  else
    return { r with delta, weight := r.weight * (36 - t), position := r.position + 36 }

end Reading

/-- The text that a spelling stands for. -/
def decode? (cs : List Char) : Option (List Char) := do
  let (digits, before) := cs.reverse.span (· ≠ '-')
  let basic := (before.drop 1).reverse
  let digits := if basic.isEmpty then cs else digits.reverse
  guard (basic.all (·.toNat < 128))
  let r ← digits.foldlM Reading.next? { output := basic.map Char.toNat }
  if r.position = 36 && r.output.all fun n => n.isValidChar then
    return r.output.map Char.ofNat
  else none

/-! ### Writing -/

/-- The digit of a value. -/
def digit (n : Nat) : Char := Char.ofNat (if n < 26 then 0x61 + n else 0x30 + (n - 26))

/-- The digits of a number, from a position on. -/
def numberDigits (bias position delta : Nat) : List Char :=
  let t := threshold bias position
  if delta < t then [digit delta]
  else
    digit (t + (delta - t) % (36 - t)) ::
      numberDigits bias (position + 36) ((delta - t) / (36 - t))
termination_by delta
decreasing_by
  have h : 1 ≤ threshold bias position := by unfold threshold; omega
  exact Nat.lt_of_le_of_lt (Nat.div_le_self _ _) (by omega)

/-- A text that is being written. -/
structure Writing where
  /-- The digits so far. -/
  output : List Char := []
  /-- The steps since the last character that was written. -/
  delta : Nat := 0
  /-- The bias of the next number. -/
  bias : Nat := 72
  /-- How many characters have been written, the ASCII ones included. -/
  written : Nat

namespace Writing

/-- Passes a character of the text on the round for the code point `code`. -/
def pass (basics code : Nat) (w : Writing) (n : Nat) : Writing :=
  if n < code then { w with delta := w.delta + 1 }
  else if n = code then
    { output := w.output ++ numberDigits w.bias 36 w.delta
      delta := 0
      bias := adapt w.delta (w.written + 1) (w.written = basics)
      written := w.written + 1 }
  else w

/-- Makes the rounds for code points in ascending order, all of them at least `next`. -/
def rounds (basics : Nat) (text : List Nat) (next : Nat) (w : Writing) : List Nat → List Char
  | [] => w.output
  | code :: rest =>
    let w := { w with delta := w.delta + (code - next) * (w.written + 1) }
    let w := text.foldl (pass basics code) w
    rounds basics text (code + 1) { w with delta := w.delta + 1 } rest

end Writing

/-- The spelling of a text. -/
def encode (cs : List Char) : List Char :=
  let basic := cs.filter (·.toNat < 128)
  let text := cs.map Char.toNat
  let codes := ((text.filter (128 ≤ ·)).mergeSort).eraseDups
  (if basic.isEmpty then [] else basic ++ ['-']) ++
    Writing.rounds basic.length text 128 { written := basic.length } codes

end CameraGraph.Url.Punycode
