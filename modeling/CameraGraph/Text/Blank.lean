/-!
# CameraGraph.Text.Blank

Blank characters, and text without the blanks around it.

"Blank" is the Unicode property White_Space and nothing else: the no-break space and the ideographic
space are blank, while the zero-width space, the byte order mark and the unit separator are not.
Every field of the input documents, every profile entry and every count is trimmed by this rule.
-/

namespace CameraGraph.Text

/-- Membership in the Unicode property White_Space. -/
def isBlank (c : Char) : Bool :=
  let n := c.toNat
  (0x9 ≤ n && n ≤ 0xD) || n == 0x20 || n == 0x85 || n == 0xA0 || n == 0x1680 ||
    (0x2000 ≤ n && n ≤ 0x200A) || n == 0x2028 || n == 0x2029 || n == 0x202F || n == 0x205F ||
    n == 0x3000

/-- The characters from the first to the last that fail `drop`. -/
def stripChars (drop : Char → Bool) (cs : List Char) : List Char :=
  ((cs.dropWhile drop).reverse.dropWhile drop).reverse

/-- Text without the characters of the class `drop` at either end. -/
def strip (drop : Char → Bool) (s : String) : String :=
  String.ofList (stripChars drop s.toList)

/-- Text without the blanks at either end. -/
def trim (s : String) : String := strip isBlank s

/-- The characters up to the last that is not blank. -/
def trimEndChars (cs : List Char) : List Char :=
  (cs.reverse.dropWhile isBlank).reverse

/-- `some s` unless nothing but blanks is left of `s`; the text comes back trimmed. -/
def nonBlank? (s : String) : Option String :=
  let t := trim s
  if t.isEmpty then none else some t

/-- The text before the first `c`, and the text after it when there is a `c` at all. -/
def cut (c : Char) : List Char → List Char × Option (List Char)
  | [] => ([], none)
  | d :: r =>
    if d = c then ([], some r)
    else
      let (before, after) := cut c r
      (d :: before, after)

theorem cut_of_notMem {c : Char} {cs : List Char} (h : c ∉ cs) : cut c cs = (cs, none) := by
  induction cs with
  | nil => rfl
  | cons d r ih =>
      have hd : d ≠ c := fun heq => h (heq ▸ List.mem_cons_self)
      rw [cut, if_neg hd, ih fun hr => h (List.mem_cons_of_mem d hr)]

theorem cut_append {c : Char} {before : List Char} (h : c ∉ before) (after : List Char) :
    cut c (before ++ c :: after) = (before, some after) := by
  induction before with
  | nil => simp [cut]
  | cons d r ih =>
      have hd : d ≠ c := fun heq => h (heq ▸ List.mem_cons_self)
      rw [List.cons_append, cut, if_neg hd, ih fun hr => h (List.mem_cons_of_mem d hr)]

end CameraGraph.Text
