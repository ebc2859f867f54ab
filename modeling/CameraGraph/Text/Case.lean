import CameraGraph.Text.CaseTable

/-!
# CameraGraph.Text.Case

Lower-cased and upper-cased text, by the full mappings of Unicode.

Workload names and the exclusion marker are compared lower-cased, device names upper-cased. A
character may map to several, and one mapping looks at its neighbours: a capital sigma at the end of
a word has a final form of its own.
-/

namespace CameraGraph.Text

/-- The characters a code point maps to: a listed sequence, a run, or itself. -/
def mapCase (sequences : List (Nat × List Nat)) (runs : List CaseRun) (c : Char) : List Char :=
  match sequences.lookup c.toNat with
  | some cs => cs.map Char.ofNat
  | none =>
    match runs.findSome? (·.map? c.toNat) with
    | some n => [Char.ofNat n]
    | none => [c]

/-- The lower-case mapping of one character, away from any neighbours. -/
def lowerChar (c : Char) : List Char :=
  if c.toNat < 0x80 then [c.toLower] else mapCase lowerSequences lowerRuns c

/-- The upper-case mapping of one character. -/
def upperChar (c : Char) : List Char :=
  if c.toNat < 0x80 then [c.toUpper] else mapCase upperSequences upperRuns c

/-- Whether the first character that is not case-ignorable is cased. -/
def startsCased (cs : List Char) : Bool :=
  match cs.dropWhile fun c => caseIgnorable.contains c.toNat with
  | [] => false
  | c :: _ => cased.contains c.toNat

/-- The lower-case form of the characters to come, given those before them, last one first. A capital
sigma is final when a cased letter stands before it and none after it. -/
def lowerAfter (before : List Char) : List Char → List Char
  | [] => []
  | c :: rest =>
    let mapped :=
      if c = 'Σ' then [if startsCased before && !startsCased rest then 'ς' else 'σ']
      else lowerChar c
    mapped ++ lowerAfter (c :: before) rest

/-- Lower-cased text. -/
def lower (s : String) : String := String.ofList (lowerAfter [] s.toList)

/-- Upper-cased text. -/
def upper (s : String) : String := String.ofList (s.toList.flatMap upperChar)

end CameraGraph.Text
