/-!
# CameraGraph.Number.Binary64

Finite numbers of the 64-bit binary format, in exact arithmetic.

A magnitude is `mantissa * 2 ^ exponent / 2 ^ 1074`: every finite number of the format is a multiple
of `2 ^ -1074`, so natural numbers suffice. A magnitude is kept in its one normal form (mantissa
below `2 ^ 53`, and at least `2 ^ 52` unless the exponent is zero), hence equal magnitudes are equal
as data. Each operation takes the exact result and rounds it once, to the nearest magnitude, a tie
to the even mantissa; a result beyond the largest magnitude is `none`.

Documents are read by the cheap rule that many readers share: the digits as an integer, then one
multiplication or division by a power of ten. `Binary64.approximate` is that rule. It can be one
unit in the last place away from the nearest number, and the answers show it.
-/

namespace CameraGraph

/-- The magnitude of a finite number: `mantissa * 2 ^ exponent / 2 ^ 1074`. -/
structure Magnitude where
  /-- The significant bits, as a whole number. -/
  mantissa : Nat
  /-- How far the mantissa is shifted up from the least bit of the format. -/
  exponent : Nat
  deriving Repr, DecidableEq

namespace Magnitude

/-- The magnitude of zero. -/
def zero : Magnitude := ⟨0, 0⟩

/-- The magnitude as a whole number of least bits, `2 ^ -1074`. -/
def leastBits (m : Magnitude) : Nat := m.mantissa * Nat.pow 2 m.exponent

/-- The quotient rounded to a whole number, a half to the even neighbour. -/
def roundDiv (num den : Nat) : Nat :=
  let q := num / den
  let r := num % den
  if den < 2 * r || (2 * r == den && q % 2 == 1) then q + 1 else q

/-- The magnitude nearest to `num / den` least bits, or `none` above the largest. -/
def ofRatio (num den : Nat) : Option Magnitude :=
  let q := num / den
  let e := if q < Nat.pow 2 53 then 0 else q.log2 - 52
  let m := roundDiv num (den * Nat.pow 2 e)
  let (m, e) := if m = Nat.pow 2 53 then (Nat.pow 2 52, e + 1) else (m, e)
  if e ≤ 2045 then some ⟨m, e⟩ else none

/-- The magnitude nearest to a whole number. -/
def ofNat (n : Nat) : Option Magnitude := ofRatio (n * Nat.pow 2 1074) 1

/-- The magnitude nearest to a power of ten. -/
def tenPow (k : Nat) : Option Magnitude := ofNat (Nat.pow 10 k)

/-- The rounded product. -/
def mul (a b : Magnitude) : Option Magnitude :=
  ofRatio (a.leastBits * b.leastBits) (Nat.pow 2 1074)

/-- The rounded quotient. -/
def div (a b : Magnitude) : Option Magnitude :=
  ofRatio (a.leastBits * Nat.pow 2 1074) b.leastBits

/-- Division by `10 ^ k`, in steps of `10 ^ 308` as long as the power itself is too large. -/
def divTenPow (m : Magnitude) (k : Nat) : Option Magnitude :=
  if k ≤ 308 then do m.div (← tenPow k)
  else if m = zero then some m
  else do divTenPow (← m.div (← tenPow 308)) (k - 308)
termination_by k

/-- Multiplication by `10 ^ k`; a power above the format's range leaves only zero in range. -/
def mulTenPow (m : Magnitude) (k : Nat) : Option Magnitude :=
  if k ≤ 308 then do m.mul (← tenPow k) else if m = zero then some m else none

end Magnitude

/-- A finite number: a magnitude and a sign, which zero has too. -/
structure Binary64 where
  /-- Whether the sign is minus. -/
  negative : Bool
  /-- The number without its sign. -/
  magnitude : Magnitude
  deriving Repr, DecidableEq

namespace Binary64

/-- Zero, of either sign. -/
def zero (negative : Bool) : Binary64 := ⟨negative, .zero⟩

/-- Equality as numbers: the two zeros are one. -/
def same (a b : Binary64) : Bool :=
  a.magnitude == b.magnitude && (a.negative == b.negative || a.magnitude == .zero)

/-- The number `significand * 10 ^ exponent` as the cheap rule reads it: the significand rounded,
then one rounded product or quotient. `none` is a number out of range. -/
def approximate (negative : Bool) (significand : Nat) (exponent : Int) : Option Binary64 := do
  let m ← Magnitude.ofNat significand
  let m ← if 0 ≤ exponent then m.mulTenPow exponent.toNat else m.divTenPow exponent.natAbs
  return ⟨negative, m⟩

end Binary64
end CameraGraph
