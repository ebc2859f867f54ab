/-!
# CameraGraph.Text.Ranges

Sets of code points, written as the ranges a character property is published in.

A property table is one text: ranges in hexadecimal, `first-last` or a single code point, separated
by spaces and line ends. `Ranges.ofText` reads it once, and membership is a scan of the pairs. Functions that are
right on ASCII without a table decide those characters before they come here.
-/

namespace CameraGraph.Text

/-- A set of code points as pairs of first and last member. -/
structure Ranges where
  /-- The pairs, in no order that matters. -/
  pairs : List (Nat × Nat)

namespace Ranges

/-- The value of a hexadecimal digit; other characters count as zero. -/
def hexValue (c : Char) : Nat :=
  if c.isDigit then c.toNat - 0x30
  else if 'a' ≤ c && c ≤ 'f' then c.toNat - 0x61 + 10
  else if 'A' ≤ c && c ≤ 'F' then c.toNat - 0x41 + 10
  else 0

/-- The number that hexadecimal digits denote. -/
def hexNumber (cs : List Char) : Nat := cs.foldl (fun n c => 16 * n + hexValue c) 0

/-- One written range: `first-last`, or a code point alone. -/
def ofWord (w : List Char) : Nat × Nat :=
  match w.span (· ≠ '-') with
  | (a, []) => (hexNumber a, hexNumber a)
  | (a, _ :: b) => (hexNumber a, hexNumber b)

/-- The words of a table: maximal runs without spaces and line ends. -/
def words (s : String) : List (List Char) :=
  (s.toList.splitOnP fun c => c == ' ' || c == '\n').filter (· ≠ [])

/-- The set written in a table. -/
def ofText (s : String) : Ranges := ⟨(words s).map ofWord⟩

/-- Membership of a code point. -/
def contains (r : Ranges) (n : Nat) : Bool := r.pairs.any fun p => p.1 ≤ n && n ≤ p.2

end Ranges
end CameraGraph.Text
