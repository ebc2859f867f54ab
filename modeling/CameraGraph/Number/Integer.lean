/-!
# CameraGraph.Number.Integer

Integers written in decimal.

A written integer is a sign that may be left out and one or more ASCII digits; leading zeros are
allowed and nothing else is. The knobs of a run (the replication count, the batch sizes) are read by
this rule, each within its own range.
-/

namespace CameraGraph

/-- The number that decimal digits denote. -/
def digitsValue (cs : List Char) : Nat := cs.foldl (fun n c => 10 * n + (c.toNat - '0'.toNat)) 0

/-- One or more ASCII digits. -/
def natural? (cs : List Char) : Option Nat :=
  if cs ≠ [] ∧ cs.all Char.isDigit then some (digitsValue cs) else none

/-- Digits after a plus sign that may be left out. -/
def unsigned? : List Char → Option Nat
  | '+' :: r => natural? r
  | cs => natural? cs

/-- Digits after either sign, or after none. -/
def signed? : List Char → Option Int
  | '-' :: r => (natural? r).map fun n => -(n : Int)
  | cs => (unsigned? cs).map Int.ofNat

/-- A signed integer that fits into 64 bits. -/
def signed64? (cs : List Char) : Option Int :=
  (signed? cs).filter fun z => -0x8000000000000000 ≤ z && z < 0x8000000000000000

/-- An unsigned integer that fits into 32 bits. -/
def unsigned32? (cs : List Char) : Option Nat :=
  (unsigned? cs).filter (· < 0x100000000)

/-- The decimal digits of a number. -/
def natDigits (n : Nat) : List Char := Nat.toDigits 10 n

/-- The decimal text of a natural number. -/
def natText (n : Nat) : String := String.ofList (natDigits n)

/-- The decimal text of an integer. -/
def intText (z : Int) : String :=
  if z < 0 then String.ofList ('-' :: natDigits z.natAbs) else natText z.natAbs

end CameraGraph
