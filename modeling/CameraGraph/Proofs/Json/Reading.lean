import CameraGraph.Json.Record

/-!
# CameraGraph.Proofs.Json.Reading

Written JSON is read back.

`Reads read text v` says that a reader takes exactly `text` off whatever follows and makes `v` of
it. It holds of written strings, and it is kept by the ways of putting texts together: items with
commas between them, and members of a map or a record one after the other. The bounds of the loops
are met because every item and every escaped character is at least one character long.
-/

namespace CameraGraph.Json

variable {α β ρ : Type}

/-- What a reader makes of a value that has been read. -/
@[simp] theorem ok_bind (a : α) (f : α → Except Error β) : (Except.ok a >>= f) = f a := rfl

@[simp] theorem pure_eq_ok (a : α) : (pure a : Except Error α) = .ok a := rfl

/-- `read` takes exactly `text` off whatever follows, and makes `v` of it. -/
def Reads (read : List Char → Except Error (α × List Char)) (text : List Char) (v : α) : Prop :=
  ∀ rest, read (text ++ rest) = .ok (v, rest)

/-- A text that starts with a character other than a blank. -/
theorem skipSpace_cons {c : Char} (h : isSpace c = false) (s : List Char) :
    skipSpace (c :: s) = c :: s := by
  rw [skipSpace, List.dropWhile_cons_of_neg (by simp [h])]

/-! ### Strings -/

/-- A digit is read as the value it was written for. -/
theorem hexValue?_digitChar : ∀ d < 16, hexValue? (Nat.digitChar d) = some d := by decide

theorem hexValue?_hexDigit (n : Nat) : hexValue? (hexDigit n) = some (n % 16) :=
  hexValue?_digitChar _ (Nat.mod_lt n (by decide))

/-- The four digits of a control character. -/
theorem fourHex_control {n : Nat} (h : n < 0x20) (rest : List Char) :
    fourHex ('0' :: '0' :: hexDigit (n / 16) :: hexDigit n :: rest) = .ok (n, rest) := by
  have hzero : hexValue? '0' = some 0 := by decide
  have hvalue : ((0 * 16 + 0) * 16 + n / 16 % 16) * 16 + n % 16 = n := by omega
  simp only [fourHex, hzero, hexValue?_hexDigit, hvalue]

/-- A control character is written as an escape that stands for it. -/
theorem escape_control {c : Char} (h : c.toNat < 0x20) (rest : List Char) :
    escape ('u' :: '0' :: '0' :: hexDigit (c.toNat / 16) :: hexDigit c.toNat :: rest) =
      .ok (c, rest) := by
  have htrail : (decide (0xDC00 ≤ c.toNat) && decide (c.toNat < 0xE000)) = false := by
    simp; omega
  have hlead : (decide (0xD800 ≤ c.toNat) && decide (c.toNat < 0xDC00)) = false := by
    simp; omega
  simp only [escape, unicodeEscape, fourHex_control h, ok_bind, htrail, hlead, Char.ofNat_toNat,
    pure_eq_ok]
  rfl

/-- An escape takes one step. -/
theorem stringTail_escape {c : Char} {s r : List Char} (h : escape s = .ok (c, r)) (bound : Nat) :
    stringTail (bound + 1) ('\\' :: s) = (stringTail bound r).bind fun p => .ok (c :: p.1, p.2) := by
  rw [stringTail, if_neg (by decide), if_pos rfl, h]
  rfl

/-- A character that stands for itself takes one step. -/
theorem stringTail_plain {c : Char} (hquote : c ≠ '"') (hslash : c ≠ '\\')
    (hctl : ¬c.toNat < 0x20) (bound : Nat) (r : List Char) :
    stringTail (bound + 1) (c :: r) = (stringTail bound r).bind fun p => .ok (c :: p.1, p.2) := by
  rw [stringTail, if_neg hquote, if_neg hslash, if_neg hctl]
  rfl

/-- One character, however it is written, is read in one step. -/
theorem stringTail_escapeChar (c : Char) (bound : Nat) (rest : List Char) :
    stringTail (bound + 1) (escapeChar c ++ rest) =
      (stringTail bound rest).bind fun p => .ok (c :: p.1, p.2) := by
  unfold escapeChar
  -- Seven characters have short escapes, which are read by computation.
  iterate 7
    split
    · subst_vars; exact stringTail_escape rfl bound
  split
  case _ hctl => exact stringTail_escape (escape_control hctl rest) bound
  case _ hquote hslash _ _ _ _ _ hctl => exact stringTail_plain hquote hslash hctl bound rest

/-- A written string takes one step for each of its characters, and one for its closing quote. -/
theorem stringTail_flatMap (cs : List Char) {bound : Nat} (h : cs.length < bound)
    (rest : List Char) :
    stringTail bound (cs.flatMap escapeChar ++ '"' :: rest) = .ok (cs, rest) := by
  induction cs generalizing bound with
  | nil =>
      obtain ⟨k, rfl⟩ : ∃ k, bound = k + 1 := ⟨bound - 1, by omega⟩
      rfl
  | cons c cs ih =>
      obtain ⟨k, rfl⟩ : ∃ k, bound = k + 1 := ⟨bound - 1, by omega⟩
      rw [List.flatMap_cons, List.append_assoc, stringTail_escapeChar,
        ih (by simpa using h)]
      rfl

theorem escapeChar_ne_nil (c : Char) : escapeChar c ≠ [] := by
  unfold escapeChar
  repeat' split
  all_goals exact List.cons_ne_nil _ _

/-- Texts that are not empty are together as long as they are many. -/
theorem length_le_flatMap {f : α → List β} (h : ∀ a, f a ≠ []) (as : List α) :
    as.length ≤ (as.flatMap f).length := by
  induction as with
  | nil => exact Nat.le_refl 0
  | cons a as ih =>
      have := List.length_pos_iff.mpr (h a)
      rw [List.flatMap_cons, List.length_append, List.length_cons]
      omega

/-- What stands behind the opening quote of a written string. -/
def stringRest (s : String) : List Char := s.toList.flatMap escapeChar ++ ['"']

theorem stringChars_eq (s : String) : stringChars s = '"' :: stringRest s := rfl

/-- **Strings.** A written string is read back after its opening quote. -/
theorem reads_string (s : String) : Reads string (stringRest s) s := by
  intro rest
  -- The loop is bounded by the length of the text; every character is written by one at least.
  have hlength : s.toList.length < (stringRest s ++ rest).length := by
    have := length_le_flatMap escapeChar_ne_nil s.toList
    rw [List.length_append, stringRest, List.length_append, List.length_singleton]
    omega
  have htail := stringTail_flatMap s.toList hlength rest
  have hrest : stringRest s ++ rest = s.toList.flatMap escapeChar ++ '"' :: rest := by
    rw [stringRest, List.append_assoc]
    rfl
  rw [← hrest] at htail
  rw [string, htail, ok_bind]
  simp only [String.ofList_toList, pure_eq_ok]

/-! ### Decoders -/

theorem reads_text (depth : Nat) (s : String) : Reads (text depth) (stringChars s) s := by
  intro rest
  rw [stringChars_eq, List.cons_append, text, skipSpace_cons (by decide)]
  exact reads_string s rest

/-- A missing text is written as `null`, and no text that is there looks like it. -/
theorem reads_optional_null (depth : Nat) (read : Decoder α) :
    Reads (optional read depth) ['n', 'u', 'l', 'l'] none := by
  intro rest
  rfl

theorem reads_optional_text (depth : Nat) (s : String) :
    Reads (optional text depth) (stringChars s) (some s) := by
  intro rest
  have htext := reads_text depth s rest
  rw [stringChars_eq, List.cons_append] at htext ⊢
  rw [optional, skipSpace_cons (by decide)]
  show (text depth ('"' :: (stringRest s ++ rest)) >>= fun p => pure (some p.1, p.2)) = _
  rw [htext]
  rfl

/-- A field reads what its decoder reads, into the change that stores it. -/
theorem Reads.field {read : Decoder α} {depth : Nat} {t : List Char} {v : α} (key : String)
    (set : α → ρ → ρ) (h : Reads (read depth) t v) :
    Reads ((Field.optional key read set).read depth) t (set v) := by
  intro rest
  show (read depth (t ++ rest) >>= fun p => pure (set p.1, p.2)) = _
  rw [h rest]
  rfl

theorem Reads.neededField {read : Decoder α} {depth : Nat} {t : List Char} {v : α} (key : String)
    (set : α → ρ → ρ) (h : Reads (read depth) t v) :
    Reads ((Field.needed key read set).read depth) t (set v) :=
  h.field key set

/-! ### Lists -/

/-- The start of an item: neither a blank nor the end of the list. -/
def StartsItem (t : List Char) : Prop := ∃ c r, t = c :: r ∧ isSpace c = false ∧ c ≠ ']'

theorem nextItem_first {t : List Char} (h : StartsItem t) (r : List Char) :
    nextItem .kept true (t ++ r) = .ok (.entry (t ++ r)) := by
  obtain ⟨c, u, rfl, hspace, hclose⟩ := h
  simp [nextItem, skipSpace_cons hspace, hclose]

theorem nextItem_comma {t : List Char} (h : StartsItem t) (r : List Char) :
    nextItem .kept false (',' :: (t ++ r)) = .ok (.entry (t ++ r)) := by
  obtain ⟨c, u, rfl, hspace, hclose⟩ := h
  simp [nextItem, skipSpace_cons (by decide : isSpace ',' = false), skipSpace_cons hspace, hclose]

/-- An item takes one step. -/
theorem items_step {item : List Char → Except Error (α × List Char)} {first : Bool}
    {s t r : List Char} {v : α} (hnext : nextItem .kept first s = .ok (.entry (t ++ r)))
    (h : Reads item t v) (bound : Nat) :
    items item (bound + 1) first s = (items item bound false r).bind fun p => .ok (v :: p.1, p.2) := by
  rw [items, hnext, ok_bind]
  simp only [h r, ok_bind]
  rfl

section Lists

variable {item : List Char → Except Error (β × List Char)} {write : α → List Char} {make : α → β}

/-- The items after the first, each behind its comma. -/
theorem items_flatMap (as : List α)
    (h : ∀ a ∈ as, Reads item (write a) (make a) ∧ StartsItem (write a)) {bound : Nat}
    (hbound : as.length < bound) (rest : List Char) :
    items item bound false ((as.flatMap fun a => ',' :: write a) ++ ']' :: rest) =
      .ok (as.map make, rest) := by
  induction as generalizing bound with
  | nil =>
      obtain ⟨k, rfl⟩ : ∃ k, bound = k + 1 := ⟨bound - 1, by omega⟩
      rfl
  | cons a as ih =>
      obtain ⟨k, rfl⟩ : ∃ k, bound = k + 1 := ⟨bound - 1, by omega⟩
      obtain ⟨hread, hstart⟩ := h a List.mem_cons_self
      have hrest := ih (fun b hb => h b (List.mem_cons_of_mem a hb)) (Nat.lt_of_succ_lt_succ hbound)
      rw [List.flatMap_cons, List.append_assoc, List.cons_append,
        items_step (nextItem_comma hstart _) hread, hrest]
      rfl

theorem intercalate_comma (t : List Char) (ts : List (List Char)) :
    [','].intercalate (t :: ts) = t ++ ts.flatMap fun u => ',' :: u := by
  induction ts generalizing t with
  | nil => simp
  | cons u us ih =>
      rw [List.intercalate_cons_cons, ih, List.flatMap_cons]
      simp only [List.append_assoc, List.cons_append, List.nil_append]

/-- **Lists.** Items with commas between them are read back after the opening bracket. -/
theorem reads_items (as : List α)
    (h : ∀ a ∈ as, Reads item (write a) (make a) ∧ StartsItem (write a)) :
    Reads (fun s => items item (s.length + 1) true s) ([','].intercalate (as.map write) ++ [']'])
      (as.map make) := by
  intro rest
  cases as with
  | nil => rfl
  | cons a as =>
      obtain ⟨hread, hstart⟩ := h a List.mem_cons_self
      have htext : [','].intercalate ((a :: as).map write) ++ [']'] ++ rest =
          write a ++ ((as.flatMap fun b => ',' :: write b) ++ ']' :: rest) := by
        rw [List.map_cons, intercalate_comma, List.flatMap_map]
        simp only [List.append_assoc, List.singleton_append]
      -- The loop is bounded by the length of the text; every item has its comma at least.
      have hlength : as.length < (write a ++ ((as.flatMap fun b => ',' :: write b) ++
          ']' :: rest)).length := by
        have := length_le_flatMap (f := fun b => ',' :: write b)
          (fun b => List.cons_ne_nil _ _) as
        simp only [List.length_append, List.length_cons]
        omega
      have hrest := items_flatMap as (fun b hb => h b (List.mem_cons_of_mem a hb)) hlength rest
      simp only [htext]
      rw [items_step (nextItem_first hstart _) hread, hrest]
      rfl

theorem reads_listOf {read : Decoder β} {depth : Nat} (as : List α)
    (h : ∀ a ∈ as, Reads (read depth) (write a) (make a) ∧ StartsItem (write a)) :
    Reads (listOf read (depth + 1)) ('[' :: [','].intercalate (as.map write) ++ [']'])
      (as.map make) := by
  intro rest
  exact reads_items as h rest

/-! ### Maps -/

/-- A member of a map takes one step. -/
theorem members_step {value : List Char → Except Error (β × List Char)} {first : Bool}
    {key : String} {s t r : List Char} {v : β}
    (hnext : nextKey .kept first s = .ok (.entry (stringRest key ++ ':' :: (t ++ r))))
    (h : Reads value t v) (bound : Nat) :
    members value (bound + 1) first s =
      (members value bound false r).bind fun p => .ok ((key, v) :: p.1, p.2) := by
  have hcolon : colon (':' :: (t ++ r)) = .ok (t ++ r) := rfl
  rw [members, hnext, ok_bind]
  simp only [reads_string key _, ok_bind, hcolon, h r]
  rfl

/-- A member of a map as it is written. -/
def memberChars (key : String) (text : List Char) : List Char := stringChars key ++ ':' :: text

theorem nextKey_first (key : String) (t r : List Char) :
    nextKey .kept true (memberChars key t ++ r) =
      .ok (.entry (stringRest key ++ ':' :: (t ++ r))) := by
  rw [memberChars, List.append_assoc, List.cons_append]
  rfl

theorem nextKey_comma (key : String) (t r : List Char) :
    nextKey .kept false (',' :: (memberChars key t ++ r)) =
      .ok (.entry (stringRest key ++ ':' :: (t ++ r))) := by
  rw [memberChars, List.append_assoc, List.cons_append]
  rfl

/-- The members of a map after the first, each behind its comma. -/
theorem members_flatMap (key : α → String) (as : List α)
    (h : ∀ a ∈ as, Reads item (write a) (make a)) {bound : Nat} (hbound : as.length < bound)
    (rest : List Char) :
    members item bound false
        ((as.flatMap fun a => ',' :: memberChars (key a) (write a)) ++ '\x7d' :: rest) =
      .ok (as.map fun a => (key a, make a), rest) := by
  induction as generalizing bound with
  | nil =>
      obtain ⟨k, rfl⟩ : ∃ k, bound = k + 1 := ⟨bound - 1, by omega⟩
      rfl
  | cons a as ih =>
      obtain ⟨k, rfl⟩ : ∃ k, bound = k + 1 := ⟨bound - 1, by omega⟩
      have hrest := ih (fun b hb => h b (List.mem_cons_of_mem a hb)) (Nat.lt_of_succ_lt_succ hbound)
      rw [List.flatMap_cons, List.append_assoc, List.cons_append,
        members_step (nextKey_comma _ _ _) (h a List.mem_cons_self), hrest]
      rfl

theorem reads_members (key : α → String) (as : List α)
    (h : ∀ a ∈ as, Reads item (write a) (make a)) :
    Reads (fun s => members item (s.length + 1) true s)
      ([','].intercalate (as.map fun a => memberChars (key a) (write a)) ++ ['\x7d'])
      (as.map fun a => (key a, make a)) := by
  intro rest
  cases as with
  | nil => rfl
  | cons a as =>
      have htext : [','].intercalate ((a :: as).map fun b => memberChars (key b) (write b)) ++
          ['\x7d'] ++ rest = memberChars (key a) (write a) ++
            ((as.flatMap fun b => ',' :: memberChars (key b) (write b)) ++ '\x7d' :: rest) := by
        rw [List.map_cons, intercalate_comma, List.flatMap_map]
        simp only [List.append_assoc, List.singleton_append]
      -- The loop is bounded by the length of the text; every member has its comma at least.
      have hlength : as.length < (memberChars (key a) (write a) ++
          ((as.flatMap fun b => ',' :: memberChars (key b) (write b)) ++
            '\x7d' :: rest)).length := by
        have := length_le_flatMap (f := fun b => ',' :: memberChars (key b) (write b))
          (fun b => List.cons_ne_nil _ _) as
        simp only [List.length_append, List.length_cons]
        omega
      have hlater : ∀ b ∈ as, Reads item (write b) (make b) :=
        fun b hb => h b (List.mem_cons_of_mem a hb)
      have hrest := members_flatMap key as hlater hlength rest
      simp only [htext]
      rw [members_step (nextKey_first _ _ _) (h a List.mem_cons_self), hrest]
      rfl

/-- **Maps.** Members with commas between them are read back, whatever their keys are. -/
theorem reads_mapOf {read : Decoder β} {depth : Nat} (key : α → String) (as : List α)
    (h : ∀ a ∈ as, Reads (read depth) (write a) (make a)) :
    Reads (mapOf read (depth + 1))
      ('\x7b' :: [','].intercalate (as.map fun a => memberChars (key a) (write a)) ++ ['\x7d'])
      (as.map fun a => (key a, make a)) := by
  intro rest
  exact reads_members key as h rest

end Lists

/-! ### Records -/

/-- A member of a record: its key, the text of its value, and the change that the value makes. -/
structure Member (ρ : Type) where
  /-- Its key. -/
  key : String
  /-- The text of its value. -/
  text : List Char
  /-- What it changes in the record. -/
  change : ρ → ρ

/-- A member as it is written. -/
def Member.chars (m : Member ρ) : List Char := stringChars m.key ++ ':' :: m.text

namespace Shape

variable {shape : Shape ρ} {depth : Nat}

/-- The shape has a field for the member, which reads its value. -/
def Knows (shape : Shape ρ) (depth : Nat) (m : Member ρ) : Prop :=
  ∃ f, shape.fields.find? (·.key == m.key) = some f ∧ Reads (f.read depth) m.text m.change

/-- A known member takes one step. -/
theorem fromMembers_step {m : Member ρ} (h : shape.Knows depth m) {seen : List String}
    (hnew : m.key ∉ seen) {s rest : List Char}
    (hnext : nextKey .kept seen.isEmpty s = .ok (.entry (stringRest m.key ++ ':' :: (m.text ++ rest))))
    (bound : Nat) (record : ρ) :
    shape.fromMembers depth (bound + 1) seen record s =
      shape.fromMembers depth bound (m.key :: seen) (m.change record) rest := by
  obtain ⟨f, hfind, hread⟩ := h
  have hseen : seen.contains m.key = false := by simpa using hnew
  rw [fromMembers, hnext, ok_bind]
  simp only [reads_string m.key _, ok_bind, hfind, hseen]
  have hcolon : colon (':' :: (m.text ++ rest)) = .ok (m.text ++ rest) := rfl
  simp only [hcolon, ok_bind, hread rest]
  rfl

/-- The members after the first, each behind its comma. -/
theorem fromMembers_flatMap (ms : List (Member ρ)) (h : ∀ m ∈ ms, shape.Knows depth m)
    {seen : List String} (hseen : seen ≠ []) (hnodup : (ms.map Member.key).Nodup)
    (hnew : ∀ m ∈ ms, m.key ∉ seen) {bound : Nat} (hbound : ms.length < bound) (record : ρ)
    (rest : List Char) :
    shape.fromMembers depth bound seen record
        ((ms.flatMap fun m => ',' :: m.chars) ++ '\x7d' :: rest) =
      .ok (ms.foldl (fun r m => m.change r) record, (ms.map Member.key).reverse ++ seen, rest) := by
  induction ms generalizing bound seen record with
  | nil =>
      obtain ⟨k, rfl⟩ : ∃ k, bound = k + 1 := ⟨bound - 1, by omega⟩
      rfl
  | cons m ms ih =>
      obtain ⟨k, rfl⟩ : ∃ k, bound = k + 1 := ⟨bound - 1, by omega⟩
      obtain ⟨hfresh, hnodup⟩ := List.nodup_cons.mp hnodup
      have hempty : seen.isEmpty = false := by simpa using hseen
      have hnext (r : List Char) : nextKey .kept seen.isEmpty (',' :: (m.chars ++ r)) =
          .ok (.entry (stringRest m.key ++ ':' :: (m.text ++ r))) := by
        rw [hempty]
        exact nextKey_comma m.key m.text r
      -- The key joins the seen ones, and the later keys differ from it as from those.
      have hlater : ∀ n ∈ ms, n.key ∉ m.key :: seen := by
        intro n hn hmem
        rcases List.mem_cons.mp hmem with heq | hmem
        · exact hfresh (heq ▸ List.mem_map_of_mem hn)
        · exact hnew n (List.mem_cons_of_mem m hn) hmem
      have hrest := ih (fun n hn => h n (List.mem_cons_of_mem m hn)) (List.cons_ne_nil m.key seen)
        hnodup hlater (Nat.lt_of_succ_lt_succ hbound) (m.change record)
      rw [List.flatMap_cons, List.append_assoc, List.cons_append,
        fromMembers_step (h m List.mem_cons_self) (hnew m List.mem_cons_self) (hnext _), hrest]
      simp

/-- All members, from the first, which has no comma, to the closing brace. -/
theorem fromMembers_intercalate (ms : List (Member ρ)) (h : ∀ m ∈ ms, shape.Knows depth m)
    (hnodup : (ms.map Member.key).Nodup) (record : ρ) (rest : List Char) :
    let s := [','].intercalate (ms.map Member.chars) ++ '\x7d' :: rest
    shape.fromMembers depth (s.length + 1) [] record s =
      .ok (ms.foldl (fun r m => m.change r) record, (ms.map Member.key).reverse, rest) := by
  intro s
  cases ms with
  | nil => rfl
  | cons m ms =>
      obtain ⟨hfresh, hnodup⟩ := List.nodup_cons.mp hnodup
      have htext : s = m.chars ++ ((ms.flatMap fun n => ',' :: n.chars) ++ '\x7d' :: rest) := by
        rw [← List.append_assoc, ← List.flatMap_map Member.chars (fun t => ',' :: t),
          ← intercalate_comma]
        rfl
      have hnext (r : List Char) : nextKey .kept ([] : List String).isEmpty (m.chars ++ r) =
          .ok (.entry (stringRest m.key ++ ':' :: (m.text ++ r))) := nextKey_first m.key m.text r
      have hlater : ∀ n ∈ ms, n.key ∉ [m.key] := by
        intro n hn hmem
        exact hfresh (List.mem_singleton.mp hmem ▸ List.mem_map_of_mem hn)
      have hlength : ms.length < s.length := by
        have := length_le_flatMap (f := fun n : Member ρ => ',' :: n.chars)
          (fun n => List.cons_ne_nil _ _) ms
        rw [htext]
        simp only [List.length_append, List.length_cons]
        omega
      have hrest := fromMembers_flatMap ms (fun n hn => h n (List.mem_cons_of_mem m hn))
        (List.cons_ne_nil m.key []) hnodup hlater hlength (m.change record) rest
      rw [htext] at hrest ⊢
      rw [fromMembers_step (h m List.mem_cons_self) List.not_mem_nil (hnext _), hrest]
      simp

/-- **Objects.** Known members with commas between them, no key twice and no required one missing,
are read back after the opening brace. -/
theorem reads_fromObject (ms : List (Member ρ)) (h : ∀ m ∈ ms, shape.Knows depth m)
    (hnodup : (ms.map Member.key).Nodup)
    (hrequired : ∀ f ∈ shape.fields, f.required → f.key ∈ ms.map Member.key) :
    Reads (shape.fromObject depth) ([','].intercalate (ms.map Member.chars) ++ ['\x7d'])
      (ms.foldl (fun r m => m.change r) shape.empty) := by
  intro rest
  have hall : shape.fields.find?
      (fun f => f.required && !(ms.map Member.key).reverse.contains f.key) = none := by
    rw [List.find?_eq_none]
    intro f hf
    simpa using fun hreq => List.mem_map.mp (hrequired f hf hreq)
  have hmembers := fromMembers_intercalate ms h hnodup shape.empty rest
  rw [List.append_assoc, List.singleton_append, fromObject, hmembers, ok_bind]
  simp only [hall]
  rfl

theorem reads_decoder (ms : List (Member ρ)) (h : ∀ m ∈ ms, shape.Knows depth m)
    (hnodup : (ms.map Member.key).Nodup)
    (hrequired : ∀ f ∈ shape.fields, f.required → f.key ∈ ms.map Member.key) :
    Reads (shape.decoder (depth + 1))
      ('\x7b' :: [','].intercalate (ms.map Member.chars) ++ ['\x7d'])
      (ms.foldl (fun r m => m.change r) shape.empty) := by
  intro rest
  exact reads_fromObject ms h hnodup hrequired rest

end Shape

/-- **Documents.** What a decoder reads without a rest is a whole document. -/
theorem Reads.whole {read : List Char → Except Error (α × List Char)} {t : List Char} {v : α}
    (h : Reads read t v) : Json.whole read (String.ofList t) = .ok v := by
  have hread := h []
  rw [List.append_nil] at hread
  rw [Json.whole, String.toList_ofList, hread]
  rfl

end CameraGraph.Json
