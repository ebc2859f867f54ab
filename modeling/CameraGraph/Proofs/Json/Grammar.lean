import CameraGraph.Proofs.Json.Reading

/-!
# CameraGraph.Proofs.Json.Grammar

Well-formed JSON text, as the grammar of the format has it.

Nothing here mentions a reader. A value is well-formed (`IsValue`) however deep its containers nest,
however large its numbers are and whatever its escapes stand for: whether a reader wants such a value
is another matter. Blanks may stand around every value and every key, and an object may hold a key any
number of times.
-/

namespace CameraGraph.Json

/-! ### Blanks -/

/-- Blanks, or nothing. -/
structure Blanks where
  /-- The blanks. -/
  chars : List Char
  /-- They are blanks indeed. -/
  blank : ∀ c ∈ chars, isSpace c = true

/-- No blanks. -/
def Blanks.none : Blanks := ⟨[], fun _ hc => absurd hc List.not_mem_nil⟩

/-- A text between blanks. -/
structure Padded where
  /-- The blanks before it. -/
  before : Blanks
  /-- The text. -/
  text : List Char
  /-- The blanks after it. -/
  after : Blanks

/-- The text with its blanks. -/
def Padded.chars (p : Padded) : List Char := p.before.chars ++ (p.text ++ p.after.chars)

/-- A text without blanks around it. -/
def Padded.bare (text : List Char) : Padded := ⟨.none, text, .none⟩

/-- A member of an object as it is written. -/
structure WrittenMember where
  /-- The string that is its key. -/
  key : Padded
  /-- Its value. -/
  value : Padded

/-- The member with the colon between its key and its value. -/
def WrittenMember.chars (m : WrittenMember) : List Char := m.key.chars ++ ':' :: m.value.chars

/-- Entries with commas between them. A comma stands before the first one too unless it is `first` of
all. -/
def entries : (first : Bool) → List (List Char) → List Char
  | _, [] => []
  | first, t :: ts => (if first then [] else [',']) ++ (t ++ entries false ts)

theorem entries_true (ts : List (List Char)) : entries true ts = [','].intercalate ts := by
  have htail (ts : List (List Char)) : entries false ts = ts.flatMap fun t => ',' :: t := by
    induction ts with
    | nil => rfl
    | cons t ts ih => rw [entries, ih, List.flatMap_cons]; rfl
  cases ts with
  | nil => rfl
  | cons t ts => rw [entries, intercalate_comma, htail]; rfl

/-- A list as it is written. The blanks inside its brackets stand there even without items. -/
def listText (gap : Blanks) (items : List Padded) : List Char :=
  '[' :: (gap.chars ++ [','].intercalate (items.map Padded.chars) ++ [']'])

/-- An object as it is written. -/
def objectText (gap : Blanks) (members : List WrittenMember) : List Char :=
  '\x7b' :: (gap.chars ++ [','].intercalate (members.map WrittenMember.chars) ++ ['\x7d'])

/-! ### Strings -/

/-- The digits of an escape that gives a character by number. -/
def hexDigits : List Char := "0123456789abcdefABCDEF".toList

/-- The letters that may follow a backslash on their own. -/
def escapeLetters : List Char := ['"', '\\', '/', 'b', 'f', 'n', 'r', 't']

/-- The rest of a string after its opening quote, closing quote included. -/
inductive InString : List Char → Prop
  /-- The closing quote. -/
  | close : InString ['"']
  /-- A character that stands for itself. -/
  | plain {c : Char} {t : List Char} (hquote : c ≠ '"') (hslash : c ≠ '\\') (hcontrol : 0x20 ≤ c.toNat)
      (h : InString t) : InString (c :: t)
  /-- A short escape. -/
  | escape {c : Char} {t : List Char} (hc : c ∈ escapeLetters) (h : InString t) :
      InString ('\\' :: c :: t)
  /-- A character given by number. -/
  | unicode {a b c d : Char} {t : List Char} (hdigits : ∀ x ∈ [a, b, c, d], x ∈ hexDigits)
      (h : InString t) : InString ('\\' :: 'u' :: a :: b :: c :: d :: t)

/-- A string. -/
def IsString (t : List Char) : Prop := ∃ r, t = '"' :: r ∧ InString r

theorem hexDigit_mem (n : Nat) : hexDigit n ∈ hexDigits := by
  have hall : ∀ d < 16, Nat.digitChar d ∈ hexDigits := by decide
  exact hall _ (Nat.mod_lt n (by decide))

/-- Strings are written as the grammar has it. -/
theorem isString_stringChars (s : String) : IsString (stringChars s) := by
  refine ⟨s.toList.flatMap escapeChar ++ ['"'], rfl, ?_⟩
  induction s.toList with
  | nil => exact .close
  | cons c cs ih =>
      rw [List.flatMap_cons, List.append_assoc]
      by_cases hshort : c ∈ ['"', '\\', '\x08', '\t', '\n', '\x0c', '\r']
      · simp only [List.mem_cons, List.not_mem_nil, or_false] at hshort
        rcases hshort with rfl | rfl | rfl | rfl | rfl | rfl | rfl <;> exact .escape (by decide) ih
      · simp only [List.mem_cons, List.not_mem_nil, or_false, not_or] at hshort
        obtain ⟨hquote, hslash, hbackspace, htab, hnewline, hfeed, hreturn⟩ := hshort
        rw [escapeChar, if_neg hquote, if_neg hslash, if_neg hbackspace, if_neg htab, if_neg hnewline,
          if_neg hfeed, if_neg hreturn]
        by_cases hcontrol : c.toNat < 0x20
        · rw [if_pos hcontrol]
          refine .unicode ?_ ih
          simp only [List.forall_mem_cons]
          exact ⟨by decide, by decide, hexDigit_mem _, hexDigit_mem _, List.forall_mem_nil _⟩
        · rw [if_neg hcontrol]
          exact .plain hquote hslash (Nat.le_of_not_lt hcontrol) ih

/-! ### Numbers -/

/-- One or more digits. -/
def IsDigits (t : List Char) : Prop := t ≠ [] ∧ ∀ c ∈ t, c.isDigit = true

theorem isDigits_iff_all {t : List Char} : IsDigits t ↔ t ≠ [] ∧ t.all Char.isDigit = true := by
  rw [IsDigits, List.all_eq_true]

instance (t : List Char) : Decidable (IsDigits t) := decidable_of_iff' _ isDigits_iff_all

/-- An integer without its sign. Of all integers only zero starts with a zero. -/
def IsInteger (t : List Char) : Prop := IsDigits t ∧ (t.head? = some '0' → t = ['0'])

instance (t : List Char) : Decidable (IsInteger t) :=
  inferInstanceAs (Decidable (IsDigits t ∧ (t.head? = some '0' → t = ['0'])))

/-- What may follow an integer: a point and digits. -/
def IsFraction (t : List Char) : Prop := t = [] ∨ ∃ ds, t = '.' :: ds ∧ IsDigits ds

/-- What may follow that: an exponent. -/
def IsExponent (t : List Char) : Prop :=
  t = [] ∨ ∃ e sign ds, t = e :: (sign ++ ds) ∧ e ∈ ['e', 'E'] ∧ sign ∈ [[], ['+'], ['-']] ∧
    IsDigits ds

/-- A number without its sign. -/
def IsUnsigned (t : List Char) : Prop :=
  ∃ int frac exp, t = int ++ (frac ++ exp) ∧ IsInteger int ∧ IsFraction frac ∧ IsExponent exp

/-! ### Values -/

/-- A value. -/
inductive IsValue : List Char → Prop
  | null : IsValue ['n', 'u', 'l', 'l']
  | true : IsValue ['t', 'r', 'u', 'e']
  | false : IsValue ['f', 'a', 'l', 's', 'e']
  | number {t : List Char} (h : IsUnsigned t) : IsValue t
  | minus {t : List Char} (h : IsUnsigned t) : IsValue ('-' :: t)
  | string {t : List Char} (h : IsString t) : IsValue t
  | list (gap : Blanks) (items : List Padded) (h : ∀ p ∈ items, IsValue p.text) :
      IsValue (listText gap items)
  | object (gap : Blanks) (members : List WrittenMember)
      (hkey : ∀ m ∈ members, IsString m.key.text) (h : ∀ m ∈ members, IsValue m.value.text) :
      IsValue (objectText gap members)

/-- A member whose key is a string and whose value is a value. -/
def WrittenMember.WellFormed (m : WrittenMember) : Prop :=
  IsString m.key.text ∧ IsValue m.value.text

/-- A member as it is written, without blanks. -/
theorem wellFormed_bare (key : String) {t : List Char} (h : IsValue t) :
    WrittenMember.WellFormed ⟨.bare (stringChars key), .bare t⟩ :=
  ⟨isString_stringChars key, h⟩

theorem isValue_objectText (gap : Blanks) {ms : List WrittenMember} (h : ∀ m ∈ ms, m.WellFormed) :
    IsValue (objectText gap ms) :=
  .object gap ms (fun m hm => (h m hm).1) fun m hm => (h m hm).2

/-! ### First characters -/

/-- An unsigned number starts with a digit. -/
theorem IsUnsigned.head (h : IsUnsigned t) : ∃ c r, t = c :: r ∧ c.isDigit = true := by
  obtain ⟨int, frac, exp, rfl, ⟨⟨hne, hdigits⟩, -⟩, -⟩ := h
  obtain ⟨c, r, rfl⟩ := List.exists_cons_of_ne_nil hne
  exact ⟨c, _, rfl, hdigits c List.mem_cons_self⟩

theorem isSpace_of_isDigit {c : Char} (h : c.isDigit = true) : isSpace c = false := by
  cases hspace : isSpace c with
  | false => rfl
  | true =>
      simp only [isSpace, Bool.or_eq_true, beq_iff_eq] at hspace
      rcases hspace with ((rfl | rfl) | rfl) | rfl <;> exact absurd h (by decide)

/-- A value starts with no blank, and not like the end of a list. -/
theorem IsValue.startsItem {t : List Char} (h : IsValue t) : StartsItem t := by
  cases h with
  | null => exact ⟨_, _, rfl, rfl, by decide⟩
  | true => exact ⟨_, _, rfl, rfl, by decide⟩
  | false => exact ⟨_, _, rfl, rfl, by decide⟩
  | number h =>
      obtain ⟨c, r, rfl, hdigit⟩ := h.head
      refine ⟨c, r, rfl, isSpace_of_isDigit hdigit, ?_⟩
      rintro rfl
      exact absurd hdigit (by decide)
  | minus _ => exact ⟨_, _, rfl, rfl, by decide⟩
  | string h =>
      obtain ⟨r, rfl, -⟩ := h
      exact ⟨_, _, rfl, rfl, by decide⟩
  | list gap items _ => exact ⟨_, _, rfl, rfl, by decide⟩
  | object gap members _ _ => exact ⟨_, _, rfl, rfl, by decide⟩

end CameraGraph.Json
