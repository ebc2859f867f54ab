import CameraGraph.Number.Binary64
import CameraGraph.Number.Integer

/-!
# CameraGraph.Number.Shortest

Decimal text of a finite binary number: the fewest digits that read back as the same number, and of
those the nearest.

The numbers that round to a magnitude form an interval around it, whose ends belong to it exactly
when the mantissa is even. For each count of digits the two neighbours of the magnitude on that
decimal grid are tried; the first count with a neighbour inside the interval wins. Seventeen digits
always suffice.
-/

namespace CameraGraph

namespace Magnitude

/-- The interval of a magnitude, its ends and itself in quarters of the last place: the mantissa is
scaled by four, and the lower half-gap is halved where the binary exponent changes. -/
structure Interval where
  /-- The lower end. -/
  low : Nat
  /-- The magnitude itself. -/
  mid : Nat
  /-- The upper end. -/
  high : Nat
  /-- Whether the ends round to the magnitude too. -/
  closed : Bool
  /-- The denominator that the three share. -/
  den : Nat

/-- The numbers that round to a magnitude. -/
def interval (m : Magnitude) : Interval :=
  let scale := Nat.pow 2 m.exponent
  let below := if m.mantissa = Nat.pow 2 52 ∧ m.exponent ≠ 0 then 1 else 2
  { low := (4 * m.mantissa - below) * scale
    mid := 4 * m.mantissa * scale
    high := (4 * m.mantissa + 2) * scale
    closed := m.mantissa % 2 = 0
    den := 4 * Nat.pow 2 1074 }

/-- The exponent of the first decimal digit of `num / den`, for a positive quotient. -/
def leadingExponent (num den : Nat) : Int :=
  if den ≤ num then ((natDigits (num / den)).length : Int) - 1
  else
    let d := (natDigits (den / num)).length
    if num * Nat.pow 10 (d - 1) = den then 1 - (d : Int) else -(d : Int)

/-- Digits with the exponent of the first one. -/
structure Digits where
  /-- The digits as a whole number. -/
  value : Nat
  /-- How many digits there are. -/
  count : Nat
  /-- The power of ten of the first digit. -/
  exponent : Int
  deriving Repr, DecidableEq

/-- Whether `value * 10 ^ k` lies in the interval. -/
def Interval.holds (i : Interval) (value : Nat) (k : Int) : Bool :=
  let num := value * Nat.pow 10 k.toNat * i.den
  let den := Nat.pow 10 (-k).toNat
  if i.closed then i.low * den ≤ num && num ≤ i.high * den
  else i.low * den < num && num < i.high * den

/-- The better of the two neighbours on the grid of `10 ^ k`, if one is in the interval. Of two the
nearer wins, and of two equally near the even one. -/
def Interval.onGrid? (i : Interval) (k : Int) : Option Nat :=
  let num := i.mid * Nat.pow 10 (-k).toNat
  let den := i.den * Nat.pow 10 k.toNat
  let below := num / den
  let above := below + 1
  match i.holds below k, i.holds above k with
  | true, true =>
    let r := num % den
    some (if 2 * r < den || (2 * r == den && below % 2 == 0) then below else above)
  | true, false => some below
  | false, true => some above
  | false, false => none

/-- The digits of the first grid, from `count` digits on, that has a point in the interval. -/
def Interval.digitsFrom (i : Interval) (lead : Int) (count : Nat) : Nat → Digits
  | 0 => ⟨i.mid / i.den, count, lead⟩
  | more + 1 =>
    match i.onGrid? (lead - (count - 1 : Nat)) with
    | some v =>
      if v = Nat.pow 10 count then ⟨Nat.pow 10 (count - 1), count, lead + 1⟩ else ⟨v, count, lead⟩
    | none => i.digitsFrom lead (count + 1) more

/-- The shortest digits of a positive magnitude. -/
def shortest (m : Magnitude) : Digits :=
  let i := m.interval
  i.digitsFrom (leadingExponent i.mid i.den) 1 17

end Magnitude

/-- The layout of a written number: with a point in it as long as the first digit stands at a power
of ten from `-5` to `15`, and with an exponent beyond. A whole number keeps one zero after its point;
the exponent has a sign and no leading zeros. -/
def Magnitude.Digits.text (d : Magnitude.Digits) : List Char :=
  let ds := natDigits d.value
  if 0 ≤ d.exponent && d.exponent ≤ 15 then
    let whole := d.exponent.toNat + 1
    if ds.length ≤ whole then ds ++ List.replicate (whole - ds.length) '0' ++ ['.', '0']
    else ds.take whole ++ '.' :: ds.drop whole
  else if -5 ≤ d.exponent && d.exponent < 0 then
    ['0', '.'] ++ List.replicate (d.exponent.natAbs - 1) '0' ++ ds
  else
    let mantissa := match ds with
      | [] => []
      | [c] => [c]
      | c :: r => c :: '.' :: r
    mantissa ++ 'e' :: (if d.exponent < 0 then '-' else '+') :: natDigits d.exponent.natAbs

/-- The text of a finite number. -/
def Binary64.text (x : Binary64) : String :=
  let body := if x.magnitude = .zero then ['0', '.', '0'] else x.magnitude.shortest.text
  String.ofList (if x.negative then '-' :: body else body)

end CameraGraph
