import CameraGraph.Text.NormalTable

/-!
# CameraGraph.Text.Normal

The canonical composed form of text.

Text that looks the same may be spelled with composed characters or with marks of their own. The
composed form decomposes every character, puts marks that do not interact into the order of their
combining classes, and composes what can be composed again. Hangul syllables are taken apart and put
together by a formula.
-/

namespace CameraGraph.Text

/-- The combining class of a code point. -/
def combiningClass (n : Nat) : Nat := ((combiningClasses.find? n).bind List.head?).getD 0

/-! ### Decomposition -/

/-- The letters of a Hangul syllable: a leading one, a vowel, and a trailing one in most. -/
def hangulLetters (n : Nat) : List Nat :=
  let i := n - 0xAC00
  let front := [0x1100 + i / 588, 0x1161 + i % 588 / 28]
  if i % 28 = 0 then front else front ++ [0x11A7 + i % 28]

/-- The full decomposition of a code point. -/
def decompose (n : Nat) : List Nat :=
  if n < 0xC0 then [n]
  else if 0xAC00 ≤ n && n < 0xD7A4 then hangulLetters n
  else ((composites.find? n).or (oneWayDecompositions.find? n)).getD [n]

/-- Puts a code point before others, behind the marks of lower classes that it does not interact
with. -/
def insertMark (n : Nat) : List Nat → List Nat
  | [] => [n]
  | m :: rest =>
    if combiningClass m ≠ 0 && combiningClass m < combiningClass n then m :: insertMark n rest
    else n :: m :: rest

/-- Marks in canonical order. -/
def orderMarks (ns : List Nat) : List Nat := ns.foldr insertMark []

/-! ### Composition -/

/-- The Hangul syllable of two parts. -/
def hangulSyllable? (a b : Nat) : Option Nat :=
  if 0x1100 ≤ a && a < 0x1113 && 0x1161 ≤ b && b < 0x1176 then
    some (0xAC00 + ((a - 0x1100) * 21 + (b - 0x1161)) * 28)
  else if 0xAC00 ≤ a && a < 0xD7A4 && (a - 0xAC00) % 28 = 0 && 0x11A8 ≤ b && b < 0x11C3 then
    some (a + (b - 0x11A7))
  else none

/-- The composite of two code points: the one whose decomposition is that of the first with the
second behind it. -/
def composite? (a b : Nat) : Option Nat :=
  let parts := decompose a ++ [b]
  (hangulSyllable? a b).or ((composites.runs.find? (·.targets = parts)).map (·.first))

/-- Composes from a starter on, behind which marks are waiting that do not compose with it; `last` is
the class of the last of them. A mark of their class or a lower one is out of the starter's reach. -/
def composeFrom (starter : Nat) (waiting : List Nat) (last : Nat) : List Nat → List Nat
  | [] => starter :: waiting
  | n :: rest =>
    let reached := waiting.isEmpty || last < combiningClass n
    match if reached then composite? starter n else none with
    | some c => composeFrom c waiting last rest
    | none =>
      if combiningClass n = 0 then starter :: waiting ++ composeFrom n [] 0 rest
      else composeFrom starter (waiting ++ [n]) (combiningClass n) rest

/-- Composes what can be composed. -/
def compose : List Nat → List Nat
  | [] => []
  | n :: rest => if combiningClass n = 0 then composeFrom n [] 0 rest else n :: compose rest

/-- The composed form of text. -/
def normal (cs : List Char) : List Char :=
  if cs.all (·.toNat < 0xC0) then cs
  else (compose (orderMarks (cs.flatMap fun c => decompose c.toNat))).map Char.ofNat

end CameraGraph.Text
