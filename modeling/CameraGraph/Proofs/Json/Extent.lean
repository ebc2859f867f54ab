import CameraGraph.Proofs.Json.Grammar
import Mathlib.Data.List.TakeDrop

/-!
# CameraGraph.Proofs.Json.Extent

How far a reader goes into a text.

On a well-formed value followed by anything that cannot belong to it (`Apart`), a reader stops where
the value does (`Stops`): it gives what it gives on the value alone, success or error, and leaves the
text that follows. So what is read first has no influence on what is read next, although a reader sees
all of the text. A reader that passes over values accepts every one of them (`Skims`).

Both are inductions on the grammar. Lists and objects are loops over entries with commas between them;
each loop has one lemma, which says that it does on the text what the entries do one by one.
-/

namespace CameraGraph.Json

variable {α β : Type}

/-- No digits, point or exponent at the start, so that no number goes on here. -/
def Apart (s : List Char) : Prop :=
  ∀ c ∈ s.head?, c.isDigit = false ∧ c ≠ '.' ∧ c ≠ 'e' ∧ c ≠ 'E'

/-- What a reader makes of a text, whatever it leaves of it. -/
def outcome (read : List Char → Except Error (α × List Char)) (t : List Char) : Except Error α :=
  (read t).map Prod.fst

/-- Reading stops where `t` does: what follows is left, and makes no difference. -/
def Stops (read : List Char → Except Error (α × List Char)) (t : List Char) : Prop :=
  ∀ rest, Apart rest → read (t ++ rest) = (outcome read t).map (·, rest)

/-- Passing over `t` succeeds and stops where `t` does. -/
def Skims (skip : List Char → Except Error (List Char)) (t : List Char) : Prop :=
  ∀ rest, Apart rest → skip (t ++ rest) = .ok rest

/-- Blanks at the start make no difference. -/
def IgnoresBlanks (read : List Char → γ) : Prop :=
  ∀ (b : Blanks) (s : List Char), read (b.chars ++ s) = read s

theorem apart_nil : Apart [] := by
  intro c hc
  cases hc

theorem apart_cons {c : Char} (h : c.isDigit = false ∧ c ≠ '.' ∧ c ≠ 'e' ∧ c ≠ 'E') (s : List Char) :
    Apart (c :: s) := by
  intro d hd
  cases hd
  exact h

/-- Blanks belong to no number. -/
theorem Apart.blanks (b : Blanks) {s : List Char} (h : Apart s) : Apart (b.chars ++ s) := by
  obtain ⟨cs, hcs⟩ := b
  cases cs with
  | nil => exact h
  | cons c r =>
      have hspace := hcs c List.mem_cons_self
      simp only [isSpace, Bool.or_eq_true, beq_iff_eq] at hspace
      refine apart_cons ?_ _
      rcases hspace with ((rfl | rfl) | rfl) | rfl <;> decide

theorem skipSpace_blanks (b : Blanks) (s : List Char) : skipSpace (b.chars ++ s) = skipSpace s :=
  List.dropWhile_append_of_pos b.blank

theorem skipSpace_startsItem {t : List Char} (h : StartsItem t) (rest : List Char) :
    skipSpace (t ++ rest) = t ++ rest := by
  obtain ⟨c, r, rfl, hspace, -⟩ := h
  exact skipSpace_cons hspace (r ++ rest)

theorem outcome_eq {read : List Char → Except Error (α × List Char)} {t : List Char}
    {out : Except Error α} (h : ∀ rest, Apart rest → read (t ++ rest) = out.map (·, rest)) :
    outcome read t = out := by
  have halone := h [] apart_nil
  rw [List.append_nil] at halone
  rw [outcome, halone]
  cases out <;> rfl

theorem Stops.of_outcome {read : List Char → Except Error (α × List Char)} {t : List Char}
    (out : Except Error α) (h : ∀ rest, Apart rest → read (t ++ rest) = out.map (·, rest)) :
    Stops read t := by
  intro rest hrest
  rw [outcome_eq h, h rest hrest]

/-- A reader that turns to another one. -/
theorem Stops.of_eq {read other : List Char → Except Error (α × List Char)} {t u : List Char}
    (h : Stops read t) (heq : ∀ rest, Apart rest → other (u ++ rest) = read (t ++ rest)) :
    Stops other u :=
  Stops.of_outcome (outcome read t) fun rest hrest => (heq rest hrest).trans (h rest hrest)

/-! ### Strings -/

/-- A text that is not empty leaves something of its bound. -/
theorem exists_bound {c : Char} {t : List Char} {bound : Nat} (h : (c :: t).length ≤ bound) :
    ∃ k, bound = k + 1 :=
  Nat.exists_eq_add_one.mpr (Nat.lt_of_lt_of_le (Nat.zero_lt_succ t.length) h)

theorem isSome_hexValue? : ∀ c ∈ hexDigits, (hexValue? c).isSome = true :=
  List.all_eq_true.mp (by decide)

theorem fourHex_digits {a b c d : Char} (h : ∀ x ∈ [a, b, c, d], x ∈ hexDigits) :
    ∃ n, ∀ s, fourHex (a :: b :: c :: d :: s) = .ok (n, s) := by
  simp only [List.forall_mem_cons] at h
  obtain ⟨ha, hb, hc, hd, -⟩ := h
  obtain ⟨a', ha'⟩ := Option.isSome_iff_exists.mp (isSome_hexValue? a ha)
  obtain ⟨b', hb'⟩ := Option.isSome_iff_exists.mp (isSome_hexValue? b hb)
  obtain ⟨c', hc'⟩ := Option.isSome_iff_exists.mp (isSome_hexValue? c hc)
  obtain ⟨d', hd'⟩ := Option.isSome_iff_exists.mp (isSome_hexValue? d hd)
  refine ⟨((a' * 16 + b') * 16 + c') * 16 + d', fun s => ?_⟩
  simp only [fourHex, ha', hb', hc', hd']

theorem escape_letter {c : Char} (h : c ∈ escapeLetters) :
    ∃ e, ∀ s, escape (c :: s) = .ok (e, s) := by
  simp only [escapeLetters, List.mem_cons, List.not_mem_nil, or_false] at h
  rcases h with rfl | rfl | rfl | rfl | rfl | rfl | rfl | rfl <;> exact ⟨_, fun s => rfl⟩

theorem skimEscape_letter {c : Char} (h : c ∈ escapeLetters) (s : List Char) :
    skimEscape (c :: s) = .ok s := by
  simp only [escapeLetters, List.mem_cons, List.not_mem_nil, or_false] at h
  rcases h with rfl | rfl | rfl | rfl | rfl | rfl | rfl | rfl <;> rfl

/-- **Strings passed over.** -/
theorem skimStringTail_skims {t : List Char} (h : InString t) {bound : Nat} (hbound : t.length ≤ bound)
    (rest : List Char) : skimStringTail bound (t ++ rest) = .ok rest := by
  induction h generalizing bound with
  | close =>
      obtain ⟨k, rfl⟩ := exists_bound hbound
      rfl
  | plain hquote hslash hcontrol _ ih =>
      obtain ⟨k, rfl⟩ := exists_bound hbound
      rw [List.cons_append, skimStringTail, if_neg hquote, if_neg hslash, if_neg (by omega)]
      exact ih (by simpa using hbound)
  | escape hc _ ih =>
      obtain ⟨k, rfl⟩ := exists_bound hbound
      rw [List.cons_append, List.cons_append, skimStringTail, if_neg (by decide), if_pos rfl,
        skimEscape_letter hc, ok_bind]
      exact ih (by simp at hbound; omega)
  | unicode hdigits _ ih =>
      obtain ⟨k, rfl⟩ := exists_bound hbound
      obtain ⟨n, hn⟩ := fourHex_digits hdigits
      simp only [List.cons_append, skimStringTail, skimEscape, hn]
      exact ih (by simp at hbound; omega)

/-- An escape by code point, told by what its four digits make: a surrogate that trails nothing, one
that leads, or a character. -/
theorem escape_unicode {ds : List Char} {n : Nat} (hn : ∀ s, fourHex (ds ++ s) = .ok (n, s)) :
    (∀ s, escape ('u' :: (ds ++ s)) = .error (.malformed .loneSurrogate)) ∨
    (∀ s, escape ('u' :: (ds ++ s)) = surrogatePair n s) ∨
    ∀ s, escape ('u' :: (ds ++ s)) = .ok (Char.ofNat n, s) := by
  simp only [escape, unicodeEscape, hn, ok_bind]
  by_cases htrail : (decide (0xDC00 ≤ n) && decide (n < 0xE000)) = true
  · exact .inl fun s => if_pos htrail
  by_cases hlead : (decide (0xD800 ≤ n) && decide (n < 0xDC00)) = true
  · exact .inr (.inl fun s => (if_neg htrail).trans (if_pos hlead))
  · exact .inr (.inr fun s => (if_neg htrail).trans (if_neg hlead))

/-- After a leading surrogate, an escape by code point is the other half of a pair or is refused. -/
theorem surrogatePair_unicode {ds : List Char} {n : Nat} (hn : ∀ s, fourHex (ds ++ s) = .ok (n, s))
    (lead : Nat) :
    (∃ e, ∀ s, surrogatePair lead ('\\' :: 'u' :: (ds ++ s)) = .ok (e, s)) ∨
    ∀ s, surrogatePair lead ('\\' :: 'u' :: (ds ++ s)) = .error (.malformed .loneSurrogate) := by
  simp only [surrogatePair, hn, ok_bind]
  by_cases htrail : (decide (0xDC00 ≤ n) && decide (n < 0xE000)) = true
  · exact .inl ⟨_, fun s => if_pos htrail⟩
  · exact .inr fun s => if_neg htrail

theorem surrogatePair_plain {c : Char} (h : c ≠ '\\') (lead : Nat) (s : List Char) :
    surrogatePair lead (c :: s) = .error (.malformed .hexEscapeEnd) := by
  unfold surrogatePair
  split
  case h_4 => rfl
  all_goals simp_all

theorem surrogatePair_letter {c : Char} (h : c ≠ 'u') (lead : Nat) (s : List Char) :
    surrogatePair lead ('\\' :: c :: s) = .error (.malformed .hexEscapeEnd) := by
  unfold surrogatePair
  split
  case h_4 => rfl
  all_goals simp_all

/-- What is read of the rest of a string is settled by `t`, within a bound that `t` does not exceed. -/
def Settled (read : Nat → List Char → Except Error (List Char × List Char)) (t : List Char) : Prop :=
  ∃ out : Except Error (List Char), ∀ bound, t.length ≤ bound → ∀ rest,
    read bound (t ++ rest) = out.map (·, rest)

/-- One more character, however it is written. -/
theorem Settled.char {t : List Char} (h : Settled stringTail t) {c first : Char} (head : List Char)
    (hstep : ∀ bound s, stringTail (bound + 1) (first :: (head ++ s)) =
      (stringTail bound s).bind fun p => .ok (c :: p.1, p.2)) :
    Settled stringTail (first :: (head ++ t)) := by
  obtain ⟨out, hout⟩ := h
  refine ⟨out.map (c :: ·), fun bound hbound rest => ?_⟩
  obtain ⟨k, rfl⟩ := exists_bound hbound
  simp only [List.length_cons, List.length_append] at hbound
  rw [List.cons_append, List.append_assoc, hstep, hout k (by omega)]
  cases out <;> rfl

/-- An escape that is no good ends the string. -/
theorem Settled.badEscape {t : List Char} {e : Error} (h : ∀ rest, escape (t ++ rest) = .error e) :
    Settled stringTail ('\\' :: t) := by
  refine ⟨.error e, fun bound hbound rest => ?_⟩
  obtain ⟨k, rfl⟩ := exists_bound hbound
  rw [List.cons_append, stringTail, if_neg (by decide), if_pos rfl, h]
  rfl

/-- The rest of a string after a leading surrogate: the character of the pair, and what follows. -/
def pairTail (lead bound : Nat) (s : List Char) : Except Error (List Char × List Char) := do
  let (e, r) ← surrogatePair lead s
  let (cs, r) ← stringTail bound r
  return (e :: cs, r)

theorem Settled.noPair {lead : Nat} {t : List Char} {e : Error}
    (h : ∀ rest, surrogatePair lead (t ++ rest) = .error e) : Settled (pairTail lead) t :=
  ⟨.error e, fun bound _ rest => by rw [pairTail, h]; rfl⟩

theorem Settled.pair {t : List Char} (h : Settled stringTail t) {lead : Nat} {e : Char}
    (head : List Char) (hpair : ∀ s, surrogatePair lead (head ++ s) = .ok (e, s)) :
    Settled (pairTail lead) (head ++ t) := by
  obtain ⟨out, hout⟩ := h
  refine ⟨out.map (e :: ·), fun bound hbound rest => ?_⟩
  rw [List.length_append] at hbound
  rw [List.append_assoc, pairTail, hpair, ok_bind]
  simp only [hout bound (by omega)]
  cases out <;> rfl

/-- An escape that leads a pair takes along what follows. -/
theorem Settled.lead {lead : Nat} {t : List Char} (h : Settled (pairTail lead) t) (head : List Char)
    (hlead : ∀ s, escape (head ++ s) = surrogatePair lead s) :
    Settled stringTail ('\\' :: (head ++ t)) := by
  obtain ⟨out, hout⟩ := h
  refine ⟨out, fun bound hbound rest => ?_⟩
  obtain ⟨k, rfl⟩ := exists_bound hbound
  simp only [List.length_cons, List.length_append] at hbound
  rw [← hout k (by omega), List.cons_append, List.append_assoc, stringTail, if_neg (by decide),
    if_pos rfl, hlead]
  rfl

/-- **Strings.** What is made of a string is decided by its closing quote. As a leading surrogate takes
the escape behind it along, the induction is on both ways in which the rest of a string may be read. -/
theorem stringTail_settled {t : List Char} (h : InString t) :
    Settled stringTail t ∧ ∀ lead, Settled (pairTail lead) t := by
  induction h with
  | close =>
      refine ⟨⟨.ok [], fun bound hbound rest => ?_⟩, fun lead => .noPair fun rest => rfl⟩
      obtain ⟨k, rfl⟩ := exists_bound hbound
      rfl
  | @plain c t hquote hslash hcontrol _ ih =>
      refine ⟨?_, fun lead => .noPair fun rest => surrogatePair_plain hslash lead (t ++ rest)⟩
      exact ih.1.char [] (stringTail_plain hquote hslash (Nat.not_lt.mpr hcontrol))
  | @escape c t hc _ ih =>
      obtain ⟨e, he⟩ := escape_letter hc
      have hletter : c ≠ 'u' := by
        rintro rfl
        exact absurd hc (by decide)
      refine ⟨?_, fun lead => .noPair fun rest => surrogatePair_letter hletter lead (t ++ rest)⟩
      exact ih.1.char [c] fun bound s => stringTail_escape (he s) bound
  | @unicode a b c d t hdigits _ ih =>
      obtain ⟨n, hn⟩ := fourHex_digits hdigits
      have hn : ∀ s, fourHex ([a, b, c, d] ++ s) = .ok (n, s) := hn
      refine ⟨?_, fun lead => ?_⟩
      · rcases escape_unicode hn with hlone | hlead | hchar
        · exact .badEscape fun rest => hlone (t ++ rest)
        · exact (ih.2 n).lead ['u', a, b, c, d] hlead
        · exact ih.1.char ['u', a, b, c, d] fun bound s => stringTail_escape (hchar s) bound
      · rcases surrogatePair_unicode hn lead with ⟨e, he⟩ | hlone
        · exact ih.1.pair ['\\', 'u', a, b, c, d] he
        · exact .noPair fun rest => hlone (t ++ rest)

/-- **Strings** are read up to their closing quote, whatever follows. -/
theorem string_stops {t : List Char} (h : InString t) (rest : List Char) :
    string (t ++ rest) = (outcome string t).map (·, rest) := by
  obtain ⟨⟨out, hout⟩, -⟩ := stringTail_settled h
  have hread (rest : List Char) : string (t ++ rest) = (out.map String.ofList).map (·, rest) := by
    rw [string, hout (t ++ rest).length (by simp) rest]
    cases out <;> rfl
  rw [outcome_eq fun rest _ => hread rest, hread rest]

/-! ### Numbers -/

theorem digitRun_append {ds s : List Char} (h : ∀ c ∈ ds, c.isDigit = true)
    (hs : ∀ c ∈ s.head?, c.isDigit = false) : digitRun (ds ++ s) = (ds, s) := by
  have hnone : s.takeWhile Char.isDigit = [] ∧ s.dropWhile Char.isDigit = s := by
    cases s with
    | nil => exact ⟨rfl, rfl⟩
    | cons c r => simp [hs c rfl]
  rw [digitRun, List.span_eq_takeWhile_dropWhile, List.takeWhile_append_of_pos h,
    List.dropWhile_append_of_pos h, hnone.1, hnone.2, List.append_nil]

theorem Apart.noDigit {s : List Char} (h : Apart s) : ∀ c ∈ s.head?, c.isDigit = false :=
  fun c hc => (h c hc).1

/-- The number with the exponent `e`. -/
def exponentNumber (negative minus : Bool) (significand : Nat) (start : Int) (e : Nat) :
    Except Error Number :=
  if 0x80000000 ≤ e then
    if significand ≠ 0 && !minus then .error (.malformed .numberRange) else .ok (.real (.zero negative))
  else realOf negative significand (if minus then start - e else start + e)

theorem exponentPart_stops {sign ds : List Char} (hsign : sign ∈ [[], ['+'], ['-']])
    (hds : IsDigits ds) (negative : Bool) (significand : Nat) (start : Int) :
    Stops (exponentPart negative significand start) (sign ++ ds) := by
  refine Stops.of_outcome
    (exponentNumber negative (decide (sign = ['-'])) significand start (digitsValue ds))
    fun rest hrest => ?_
  have hne : ds ++ rest ≠ [] := List.append_ne_nil_of_left_ne_nil hds.1 rest
  have hrun := digitRun_append hds.2 hrest.noDigit
  unfold exponentPart
  split
  rename_i minus s hafter
  -- The sign is taken off, and a digit is none.
  have hpair : minus = decide (sign = ['-']) ∧ s = ds ++ rest := by
    obtain ⟨d, r, rfl⟩ := List.exists_cons_of_ne_nil hds.1
    have hdigit := hds.2 d List.mem_cons_self
    simp only [List.mem_cons, List.not_mem_nil, or_false] at hsign
    rcases hsign with rfl | rfl | rfl
    · split at hafter
      case h_3 =>
        cases hafter
        exact ⟨rfl, rfl⟩
      all_goals
        rename_i heq
        cases heq
        exact absurd hdigit (by decide)
    · cases hafter
      exact ⟨rfl, rfl⟩
    · cases hafter
      exact ⟨rfl, rfl⟩
  obtain ⟨rfl, rfl⟩ := hpair
  simp only [hrun, if_neg hne, if_neg hds.1]
  unfold exponentNumber
  split
  · split <;> rfl
  · cases realOf _ _ _ <;> rfl

/-- An exponent is left out, or starts with one of two letters. -/
theorem IsExponent.cases {exp : List Char} (h : IsExponent exp) :
    exp = [] ∨ ∃ sign ds, (exp = 'e' :: (sign ++ ds) ∨ exp = 'E' :: (sign ++ ds)) ∧
      sign ∈ [[], ['+'], ['-']] ∧ IsDigits ds := by
  rcases h with rfl | ⟨e, sign, ds, rfl, he, hsign, hds⟩
  · exact .inl rfl
  · simp only [List.mem_cons, List.not_mem_nil, or_false] at he
    rcases he with rfl | rfl
    · exact .inr ⟨sign, ds, .inl rfl, hsign, hds⟩
    · exact .inr ⟨sign, ds, .inr rfl, hsign, hds⟩

/-- What may stand behind the digits of a number starts with no digit. -/
theorem IsExponent.noDigit {exp rest : List Char} (h : IsExponent exp) (hrest : Apart rest) :
    ∀ c ∈ (exp ++ rest).head?, c.isDigit = false := by
  rcases h.cases with rfl | ⟨sign, ds, rfl | rfl, -⟩
  · exact hrest.noDigit
  all_goals
    intro c hc
    cases hc
    rfl

/-- No exponent starts here. -/
theorem Apart.noExponent {e : Char} {s : List Char} (h : Apart (e :: s)) (he : e ∈ ['e', 'E']) :
    False := by
  obtain ⟨-, -, hlower, hupper⟩ := h e rfl
  simp only [List.mem_cons, List.not_mem_nil, or_false] at he
  exact he.elim hlower hupper

theorem pointPart_stops {ds exp : List Char} (hds : IsDigits ds) (hexp : IsExponent exp)
    (negative : Bool) (significand : Nat) (start : Int) :
    Stops (pointPart negative significand start) (ds ++ exp) := by
  have hrun (rest : List Char) (hrest : Apart rest) :
      digitRun (ds ++ exp ++ rest) = (ds, exp ++ rest) := by
    rw [List.append_assoc, digitRun_append hds.2 (hexp.noDigit hrest)]
  rcases hexp.cases with rfl | ⟨sign, es, hexp, hsign, hes⟩
  · refine Stops.of_outcome (realOf negative (takeDigits significand ds).1
      (start - (ds.length - (takeDigits significand ds).2.length : Nat))) fun rest hrest => ?_
    simp only [pointPart, hrun rest hrest, if_neg hds.1, List.nil_append]
    split
    · exact (hrest.noExponent (by decide)).elim
    · exact (hrest.noExponent (by decide)).elim
    · cases realOf _ _ _ <;> rfl
  · refine (exponentPart_stops hsign hes negative (takeDigits significand ds).1
      (start - (ds.length - (takeDigits significand ds).2.length : Nat))).of_eq
      fun rest hrest => ?_
    simp only [pointPart, hrun rest hrest, if_neg hds.1]
    rcases hexp with rfl | rfl <;> rfl

/-- What follows the digits of an integer starts with no digit. -/
theorem IsFraction.noDigit {frac exp rest : List Char} (hfrac : IsFraction frac)
    (hexp : IsExponent exp) (hrest : Apart rest) :
    ∀ c ∈ (frac ++ exp ++ rest).head?, c.isDigit = false := by
  rcases hfrac with rfl | ⟨ds, rfl, -⟩
  · exact hexp.noDigit hrest
  · intro c hc
    cases hc
    rfl

theorem numberAfter_stops {frac exp : List Char} (hfrac : IsFraction frac) (hexp : IsExponent exp)
    (negative : Bool) (int : List Char) : Stops (numberAfter negative int) (frac ++ exp) := by
  rcases hfrac with rfl | ⟨ds, rfl, hds⟩
  · rcases hexp.cases with rfl | ⟨sign, es, hexp, hsign, hes⟩
    · refine Stops.of_outcome (outcome (numberAfter negative int) []) fun rest hrest => ?_
      simp only [outcome, numberAfter, List.nil_append]
      split
      · exact absurd rfl (hrest '.' rfl).2.1
      · exact (hrest.noExponent (by decide)).elim
      · exact (hrest.noExponent (by decide)).elim
      · split
        · cases realOf _ _ _ <;> rfl
        split
        · rfl
        split
        · rfl
        · cases realOf _ _ _ <;> rfl
    · refine (exponentPart_stops hsign hes negative (takeDigits 0 int).1
        ((takeDigits 0 int).2.length : Nat)).of_eq fun rest _ => ?_
      rcases hexp with rfl | rfl <;> rfl
  · exact (pointPart_stops hds hexp negative (takeDigits 0 int).1
      ((takeDigits 0 int).2.length : Nat)).of_eq fun rest _ => rfl

/-- The digits of an integer are taken to their end. -/
theorem number_append {int s : List Char} (h : IsInteger int) (hs : ∀ c ∈ s.head?, c.isDigit = false)
    (negative : Bool) : number negative (int ++ s) = numberAfter negative int s := by
  obtain ⟨⟨hne, hdigits⟩, hzero⟩ := h
  obtain ⟨c, ds, rfl⟩ := List.exists_cons_of_ne_nil hne
  rw [List.cons_append, number.eq_def]
  dsimp only
  by_cases hc : c = '0'
  · -- An integer that starts with zero ends there.
    cases (List.cons.inj (hzero (congrArg some hc))).2
    rw [if_pos hc, hc, List.nil_append]
    split
    case h_1 d _ =>
      rw [hs d rfl, if_neg Bool.false_ne_true]
    case h_2 => rfl
  · rw [if_neg hc, if_pos (hdigits c List.mem_cons_self), ← List.cons_append,
      digitRun_append hdigits hs]

/-- **Numbers**, after their sign. -/
theorem number_stops {t : List Char} (h : IsUnsigned t) (negative : Bool) :
    Stops (number negative) t := by
  obtain ⟨int, frac, exp, rfl, hint, hfrac, hexp⟩ := h
  refine (numberAfter_stops hfrac hexp negative int).of_eq fun rest hrest => ?_
  rw [List.append_assoc, number_append hint (hfrac.noDigit hexp hrest)]

theorem skimDigits_append {ds s : List Char} (hds : IsDigits ds)
    (hs : ∀ c ∈ s.head?, c.isDigit = false) : skimDigits (ds ++ s) = .ok s := by
  rw [skimDigits, digitRun_append hds.2 hs]
  obtain ⟨d, r, rfl⟩ := List.exists_cons_of_ne_nil hds.1
  rfl

theorem skimExponent_skims {sign ds : List Char} (hsign : sign ∈ [[], ['+'], ['-']])
    (hds : IsDigits ds) : Skims skimExponent (sign ++ ds) := by
  intro rest hrest
  have hskim := skimDigits_append hds hrest.noDigit
  simp only [List.mem_cons, List.not_mem_nil, or_false] at hsign
  rcases hsign with rfl | rfl | rfl
  · obtain ⟨d, r, rfl⟩ := List.exists_cons_of_ne_nil hds.1
    have hdigit := hds.2 d List.mem_cons_self
    unfold skimExponent
    split
    case h_3 => exact hskim
    all_goals
      rename_i heq
      cases heq
      exact absurd hdigit (by decide)
  · exact hskim
  · exact hskim

theorem skimFraction_skims {frac exp : List Char} (hfrac : IsFraction frac) (hexp : IsExponent exp) :
    Skims skimFraction (frac ++ exp) := by
  intro rest hrest
  rcases hfrac with rfl | ⟨ds, rfl, hds⟩
  · rcases hexp.cases with rfl | ⟨sign, es, hexp, hsign, hes⟩
    · rw [List.append_nil, List.nil_append]
      unfold skimFraction
      split
      · exact absurd rfl (hrest '.' rfl).2.1
      · exact (hrest.noExponent (by decide)).elim
      · exact (hrest.noExponent (by decide)).elim
      · rfl
    · have hskim := skimExponent_skims hsign hes rest hrest
      rcases hexp with rfl | rfl <;> exact hskim
  · have hskim := skimDigits_append hds (hexp.noDigit hrest)
    rw [List.append_assoc, List.cons_append, skimFraction, hskim, ok_bind]
    rcases hexp.cases with rfl | ⟨sign, es, hexp, hsign, hes⟩
    · rw [List.nil_append]
      split
      · exact (hrest.noExponent (by decide)).elim
      · exact (hrest.noExponent (by decide)).elim
      · rfl
    · have hexponent := skimExponent_skims hsign hes rest hrest
      rcases hexp with rfl | rfl <;> exact hexponent

/-- **Numbers passed over**, after their sign. -/
theorem skimNumber_skims {t : List Char} (h : IsUnsigned t) : Skims skimNumber t := by
  intro rest hrest
  obtain ⟨int, frac, exp, rfl, ⟨hint, hzero⟩, hfrac, hexp⟩ := h
  have hnoDigit := hfrac.noDigit hexp hrest
  have hskim := skimDigits_append hint hnoDigit
  rw [List.append_assoc]
  unfold skimNumber
  split
  case h_1 d r heq =>
    obtain ⟨c, ds, rfl⟩ := List.exists_cons_of_ne_nil hint.1
    obtain ⟨rfl, htail⟩ := List.cons.inj heq
    -- An integer that starts with zero ends there.
    cases (List.cons.inj (hzero rfl)).2
    have htext : frac ++ exp ++ rest = d :: r := htail
    have hd : d.isDigit = false := hnoDigit d (by rw [htext]; rfl)
    rw [hd, if_neg Bool.false_ne_true, ← htext]
    exact skimFraction_skims hfrac hexp rest hrest
  case h_2 =>
    rw [hskim, ok_bind]
    exact skimFraction_skims hfrac hexp rest hrest

/-! ### Lists -/

/-- An item starts after its comma and its blanks. -/
theorem nextItem_entry {t : List Char} (ht : StartsItem t) (care : Care) (first : Bool)
    (gap before : Blanks) (s : List Char) :
    nextItem care first (gap.chars ++ ((if first then [] else [',']) ++ (before.chars ++ (t ++ s)))) =
      .ok (.entry (t ++ s)) := by
  have hstart := skipSpace_startsItem ht s
  obtain ⟨c, r, rfl, hspace, hclose⟩ := ht
  rw [List.cons_append] at hstart ⊢
  have hcomma : skipSpace (',' :: (before.chars ++ c :: (r ++ s))) =
      ',' :: (before.chars ++ c :: (r ++ s)) := skipSpace_cons (by decide) _
  cases first <;> cases care <;> simp [nextItem, skipSpace_blanks, hcomma, hstart, hclose]

theorem nextItem_close (care : Care) (first : Bool) (gap : Blanks) (rest : List Char) :
    nextItem care first (gap.chars ++ ']' :: rest) = .ok (.close rest) := by
  rw [nextItem, skipSpace_blanks, skipSpace_cons (by decide)]
  rfl

/-- Behind an entry and its blanks there is a comma or a bracket. -/
theorem apart_entries (b : Blanks) (ts : List (List Char)) {c : Char} (hc : c ∈ [']', '\x7d'])
    (rest : List Char) : Apart (b.chars ++ (entries false ts ++ c :: rest)) := by
  refine Apart.blanks b ?_
  cases ts with
  | nil =>
      simp only [List.mem_cons, List.not_mem_nil, or_false] at hc
      rcases hc with rfl | rfl <;> exact apart_cons (by decide) rest
  | cons t ts => exact apart_cons (by decide) _

/-- There are as many entries as they are long at most. -/
theorem entries_length (f : α → List Char) (as : List α) (hf : ∀ a ∈ as, f a ≠ []) (first : Bool) :
    as.length ≤ (entries first (as.map f)).length := by
  induction as generalizing first with
  | nil => exact Nat.zero_le _
  | cons a as ih =>
      have htail := ih (fun b hb => hf b (List.mem_cons_of_mem a hb)) false
      have hhead := List.length_pos_iff.mpr (hf a List.mem_cons_self)
      rw [List.map_cons, entries]
      simp only [List.length_cons, List.length_append]
      omega

theorem Padded.chars_ne_nil {p : Padded} (h : StartsItem p.text) : p.chars ≠ [] := by
  obtain ⟨c, r, hc, -⟩ := h
  simp [Padded.chars, hc]

section Items

variable {ps : List Padded}

/-- **Items** are read one by one. -/
theorem items_entries {item : List Char → Except Error (α × List Char)}
    (h : ∀ p ∈ ps, StartsItem p.text ∧ Stops item p.text) {bound : Nat} (hbound : ps.length < bound)
    (first : Bool) (gap : Blanks) (rest : List Char) :
    items item bound first (gap.chars ++ (entries first (ps.map Padded.chars) ++ ']' :: rest)) =
      (ps.mapM fun p => outcome item p.text).map (·, rest) := by
  induction ps generalizing bound first gap with
  | nil =>
      obtain ⟨k, rfl⟩ : ∃ k, bound = k + 1 := ⟨bound - 1, by omega⟩
      rw [List.map_nil, entries, List.nil_append, items, nextItem_close]
      rfl
  | cons p ps ih =>
      obtain ⟨k, rfl⟩ : ∃ k, bound = k + 1 := ⟨bound - 1, by omega⟩
      obtain ⟨hstart, hstops⟩ := h p List.mem_cons_self
      have hrest := ih (fun q hq => h q (List.mem_cons_of_mem p hq)) (Nat.lt_of_succ_lt_succ hbound)
        false p.after
      have hapart := apart_entries p.after (ps.map Padded.chars) List.mem_cons_self rest
      simp only [List.map_cons, entries, Padded.chars, List.append_assoc] at hrest hapart ⊢
      rw [items, nextItem_entry hstart, ok_bind]
      simp only [hstops _ hapart, List.mapM_cons]
      cases outcome item p.text with
      | error e => rfl
      | ok v =>
          simp only [Except.map, ok_bind, hrest]
          cases ps.mapM fun p => outcome item p.text <;> rfl

theorem listText_append (gap : Blanks) (ps : List Padded) (rest : List Char) :
    listText gap ps ++ rest =
      '[' :: (gap.chars ++ (entries true (ps.map Padded.chars) ++ ']' :: rest)) := by
  simp [listText, entries_true]

/-- The items of a written list. -/
theorem items_listText {item : List Char → Except Error (α × List Char)}
    (h : ∀ p ∈ ps, StartsItem p.text ∧ Stops item p.text) (gap : Blanks) (rest : List Char) :
    let r := gap.chars ++ (entries true (ps.map Padded.chars) ++ ']' :: rest)
    items item (r.length + 1) true r = (ps.mapM fun p => outcome item p.text).map (·, rest) := by
  intro r
  have hlength := entries_length Padded.chars ps (fun p hp => Padded.chars_ne_nil (h p hp).1) true
  refine items_entries h ?_ true gap rest
  simp only [r, List.length_append, List.length_cons]
  omega

/-- **Items passed over.** -/
theorem skimItems_entries {item : List Char → Except Error (List Char)}
    (h : ∀ p ∈ ps, StartsItem p.text ∧ Skims item p.text) {bound : Nat} (hbound : ps.length < bound)
    (first : Bool) (gap : Blanks) (rest : List Char) :
    skimItems item bound first (gap.chars ++ (entries first (ps.map Padded.chars) ++ ']' :: rest)) =
      .ok rest := by
  induction ps generalizing bound first gap with
  | nil =>
      obtain ⟨k, rfl⟩ : ∃ k, bound = k + 1 := ⟨bound - 1, by omega⟩
      rw [List.map_nil, entries, List.nil_append, skimItems, nextItem_close]
      rfl
  | cons p ps ih =>
      obtain ⟨k, rfl⟩ : ∃ k, bound = k + 1 := ⟨bound - 1, by omega⟩
      obtain ⟨hstart, hskims⟩ := h p List.mem_cons_self
      have hrest := ih (fun q hq => h q (List.mem_cons_of_mem p hq)) (Nat.lt_of_succ_lt_succ hbound)
        false p.after
      have hapart := apart_entries p.after (ps.map Padded.chars) List.mem_cons_self rest
      simp only [List.map_cons, entries, Padded.chars, List.append_assoc] at hrest hapart ⊢
      rw [skimItems, nextItem_entry hstart, ok_bind]
      simp only [hskims _ hapart, ok_bind, hrest]

end Items

/-! ### Objects -/

/-- A key starts after its comma and its blanks. -/
theorem nextKey_entry (care : Care) (first : Bool) (gap before : Blanks) (s : List Char) :
    nextKey care first (gap.chars ++ ((if first then [] else [',']) ++ (before.chars ++ '"' :: s))) =
      .ok (.entry s) := by
  have hquote : skipSpace ('"' :: s) = '"' :: s := skipSpace_cons (by decide) s
  have hcomma : skipSpace (',' :: (before.chars ++ '"' :: s)) = ',' :: (before.chars ++ '"' :: s) :=
    skipSpace_cons (by decide) _
  cases first <;> cases care <;> simp [nextKey, skipSpace_blanks, hcomma, hquote]

theorem nextKey_close (care : Care) (first : Bool) (gap : Blanks) (rest : List Char) :
    nextKey care first (gap.chars ++ '\x7d' :: rest) = .ok (.close rest) := by
  rw [nextKey, skipSpace_blanks, skipSpace_cons (by decide)]
  rfl

theorem colon_blanks (b : Blanks) (s : List Char) : colon (b.chars ++ ':' :: s) = .ok s := by
  rw [colon, skipSpace_blanks, skipSpace_cons (by decide)]
  rfl

/-- The key of a member as it is read, between its quotes. -/
def WrittenMember.name (m : WrittenMember) : Except Error String := outcome string (m.key.text.drop 1)

/-- A key that has been written is read back. -/
theorem WrittenMember.name_eq {m : WrittenMember} {s : String} (h : m.key.text = stringChars s) :
    m.name = .ok s := by
  rw [WrittenMember.name, h, stringChars_eq]
  exact outcome_eq fun rest _ => reads_string s rest

/-- A member with its value as `value` reads it. -/
def memberOutcome (value : List Char → Except Error (α × List Char)) (m : WrittenMember) :
    Except Error (String × α) := do
  let k ← m.name
  let v ← outcome value m.value.text
  return (k, v)

theorem WrittenMember.chars_ne_nil (m : WrittenMember) : m.chars ≠ [] := by
  simp [WrittenMember.chars]

section Members

variable {ms : List WrittenMember}

/-- **Members** are read one by one. -/
theorem members_entries {value : List Char → Except Error (α × List Char)}
    (hvalue : IgnoresBlanks value) (h : ∀ m ∈ ms, IsString m.key.text ∧ Stops value m.value.text)
    {bound : Nat} (hbound : ms.length < bound) (first : Bool) (gap : Blanks) (rest : List Char) :
    members value bound first
        (gap.chars ++ (entries first (ms.map WrittenMember.chars) ++ '\x7d' :: rest)) =
      (ms.mapM (memberOutcome value)).map (·, rest) := by
  induction ms generalizing bound first gap with
  | nil =>
      obtain ⟨k, rfl⟩ : ∃ k, bound = k + 1 := ⟨bound - 1, by omega⟩
      rw [List.map_nil, entries, List.nil_append, members, nextKey_close]
      rfl
  | cons m ms ih =>
      obtain ⟨k, rfl⟩ : ∃ k, bound = k + 1 := ⟨bound - 1, by omega⟩
      obtain ⟨⟨key, hkey, hin⟩, hstops⟩ := h m List.mem_cons_self
      have hrest := ih (fun n hn => h n (List.mem_cons_of_mem m hn)) (Nat.lt_of_succ_lt_succ hbound)
        false m.value.after
      have hapart := apart_entries m.value.after (ms.map WrittenMember.chars)
        (List.mem_cons_of_mem _ List.mem_cons_self) rest
      simp only [List.map_cons, entries, WrittenMember.chars, Padded.chars, List.append_assoc,
        List.cons_append, hkey] at hrest hapart ⊢
      rw [members, nextKey_entry, ok_bind]
      simp only [string_stops hin, List.mapM_cons, memberOutcome, WrittenMember.name, hkey,
        List.drop_succ_cons, List.drop_zero]
      cases outcome string key with
      | error e => rfl
      | ok name =>
          simp only [Except.map, ok_bind, colon_blanks, hvalue m.value.before, hstops _ hapart]
          cases outcome value m.value.text with
          | error e => rfl
          | ok v =>
              simp only [Except.map, ok_bind, hrest]
              cases ms.mapM (memberOutcome value) <;> rfl

theorem objectText_append (gap : Blanks) (ms : List WrittenMember) (rest : List Char) :
    objectText gap ms ++ rest =
      '\x7b' :: (gap.chars ++ (entries true (ms.map WrittenMember.chars) ++ '\x7d' :: rest)) := by
  simp [objectText, entries_true]

/-- The members of a written object. -/
theorem members_objectText {value : List Char → Except Error (α × List Char)}
    (hvalue : IgnoresBlanks value) (h : ∀ m ∈ ms, IsString m.key.text ∧ Stops value m.value.text)
    (gap : Blanks) (rest : List Char) :
    let r := gap.chars ++ (entries true (ms.map WrittenMember.chars) ++ '\x7d' :: rest)
    members value (r.length + 1) true r = (ms.mapM (memberOutcome value)).map (·, rest) := by
  intro r
  have hlength := entries_length WrittenMember.chars ms (fun m _ => m.chars_ne_nil) true
  refine members_entries hvalue h ?_ true gap rest
  simp only [r, List.length_append, List.length_cons]
  omega

/-- **Members passed over.** -/
theorem skimMembers_entries {value : List Char → Except Error (List Char)}
    (hvalue : IgnoresBlanks value) (h : ∀ m ∈ ms, IsString m.key.text ∧ Skims value m.value.text)
    {bound : Nat} (hbound : ms.length < bound) (first : Bool) (gap : Blanks) (rest : List Char) :
    skimMembers value bound first
        (gap.chars ++ (entries first (ms.map WrittenMember.chars) ++ '\x7d' :: rest)) = .ok rest := by
  induction ms generalizing bound first gap with
  | nil =>
      obtain ⟨k, rfl⟩ : ∃ k, bound = k + 1 := ⟨bound - 1, by omega⟩
      rw [List.map_nil, entries, List.nil_append, skimMembers, nextKey_close]
      rfl
  | cons m ms ih =>
      obtain ⟨k, rfl⟩ : ∃ k, bound = k + 1 := ⟨bound - 1, by omega⟩
      obtain ⟨⟨key, hkey, hin⟩, hskims⟩ := h m List.mem_cons_self
      have hrest := ih (fun n hn => h n (List.mem_cons_of_mem m hn)) (Nat.lt_of_succ_lt_succ hbound)
        false m.value.after
      have hapart := apart_entries m.value.after (ms.map WrittenMember.chars)
        (List.mem_cons_of_mem _ List.mem_cons_self) rest
      simp only [List.map_cons, entries, WrittenMember.chars, Padded.chars, List.append_assoc,
        List.cons_append, hkey] at hrest hapart ⊢
      have hstring (s : List Char) : skimString (key ++ s) = .ok s :=
        skimStringTail_skims hin (by simp) s
      rw [skimMembers, nextKey_entry, ok_bind]
      simp only [hstring, ok_bind, colon_blanks, hvalue m.value.before, hskims _ hapart, hrest]

end Members

/-! ### Values -/

theorem value_ignoresBlanks (depth : Nat) : IgnoresBlanks (value depth) := by
  intro b s
  rw [value.eq_def, value.eq_def, skipSpace_blanks]

theorem skimValue_ignoresBlanks (bound : Nat) : IgnoresBlanks (skimValue bound) := by
  intro b s
  rw [skimValue.eq_def, skimValue.eq_def, skipSpace_blanks]

/-- What a reader's success is turned into, when what is left does not count. -/
theorem Stops.map {read : List Char → Except Error (α × List Char)} {t : List Char}
    (h : Stops read t) (f : α → Except Error β) :
    Stops (fun s => read s >>= fun p => (f p.1).map (·, p.2)) t := by
  refine Stops.of_outcome (outcome read t >>= f) fun rest hrest => ?_
  simp only [h rest hrest]
  cases outcome read t <;> rfl

/-- A digit is none of the characters by which other values are told. -/
theorem isDigit_ne {c : Char} (h : c.isDigit = true) :
    c ≠ 'n' ∧ c ≠ 't' ∧ c ≠ 'f' ∧ c ≠ '-' ∧ isSpace c = false := by
  refine ⟨?_, ?_, ?_, ?_, isSpace_of_isDigit h⟩ <;> rintro rfl <;> exact absurd h (by decide)

theorem value_digit {c : Char} (h : c.isDigit = true) (depth : Nat) (r : List Char) :
    value depth (c :: r) =
      number false (c :: r) >>= fun p => (Except.ok (.number p.1)).map (·, p.2) := by
  obtain ⟨hn, ht, hf, hminus, hspace⟩ := isDigit_ne h
  rw [value.eq_def, skipSpace_cons hspace]
  simp only [if_neg hn, if_neg ht, if_neg hf, if_neg hminus, if_pos h]
  rfl

theorem value_minus (depth : Nat) (r : List Char) :
    value depth ('-' :: r) =
      number true r >>= fun p => (Except.ok (.number p.1)).map (·, p.2) := by
  rw [value.eq_def]
  rfl

theorem skimValue_digit {c : Char} (h : c.isDigit = true) (bound : Nat) (r : List Char) :
    skimValue bound (c :: r) = skimNumber (c :: r) := by
  obtain ⟨hn, ht, hf, hminus, hspace⟩ := isDigit_ne h
  rw [skimValue.eq_def, skipSpace_cons hspace]
  simp only [if_neg hn, if_neg ht, if_neg hf, if_neg hminus, if_pos h]

theorem value_list (depth : Nat) (r : List Char) :
    value (depth + 1) ('[' :: r) =
      items (value depth) (r.length + 1) true r >>= fun p => pure (.list p.1, p.2) := by
  rw [value.eq_def]
  rfl

theorem value_object (depth : Nat) (r : List Char) :
    value (depth + 1) ('\x7b' :: r) =
      members (value depth) (r.length + 1) true r >>= fun p => pure (.object p.1, p.2) := by
  rw [value.eq_def]
  rfl

theorem value_objectText {depth : Nat} {ms : List WrittenMember}
    (h : ∀ m ∈ ms, IsString m.key.text ∧ Stops (value depth) m.value.text) (gap : Blanks)
    (rest : List Char) :
    value (depth + 1) (objectText gap ms ++ rest) =
      ((ms.mapM (memberOutcome (value depth))).map .object).map (·, rest) := by
  rw [objectText_append, value_object, members_objectText (value_ignoresBlanks depth) h]
  cases ms.mapM (memberOutcome (value depth)) <;> rfl

/-- **Values** are read up to their end, whatever follows. -/
theorem value_stops {t : List Char} (h : IsValue t) (depth : Nat) : Stops (value depth) t := by
  induction h generalizing depth with
  | null => exact Stops.of_outcome (.ok .null) fun rest _ => by rw [value.eq_def]; rfl
  | true => exact Stops.of_outcome (.ok (.bool true)) fun rest _ => by rw [value.eq_def]; rfl
  | false => exact Stops.of_outcome (.ok (.bool false)) fun rest _ => by rw [value.eq_def]; rfl
  | number h =>
      refine ((number_stops h false).map fun n => .ok (.number n)).of_eq fun rest _ => ?_
      obtain ⟨c, r, rfl, hdigit⟩ := h.head
      exact value_digit hdigit depth (r ++ rest)
  | minus h =>
      refine ((number_stops h true).map fun n => .ok (.number n)).of_eq fun rest _ => ?_
      exact value_minus depth _
  | string h =>
      obtain ⟨r, rfl, hin⟩ := h
      have hstops : Stops string r := fun rest _ => string_stops hin rest
      refine (hstops.map fun s => .ok (.string s)).of_eq fun rest _ => ?_
      rw [value.eq_def]
      rfl
  | list gap ps hps ih =>
      cases depth with
      | zero =>
          refine Stops.of_outcome (.error (.malformed .depth)) fun rest _ => ?_
          rw [value.eq_def]
          rfl
      | succ d =>
          refine Stops.of_outcome ((ps.mapM fun p => outcome (value d) p.text).map .list)
            fun rest _ => ?_
          rw [listText_append, value_list,
            items_listText (fun p hp => ⟨(hps p hp).startsItem, ih p hp d⟩)]
          cases ps.mapM fun p => outcome (value d) p.text <;> rfl
  | object gap ms hkey _ ih =>
      cases depth with
      | zero =>
          refine Stops.of_outcome (.error (.malformed .depth)) fun rest _ => ?_
          rw [value.eq_def]
          rfl
      | succ d =>
          exact Stops.of_outcome _ fun rest _ =>
            value_objectText (fun m hm => ⟨hkey m hm, ih m hm d⟩) gap rest

theorem length_le_of_mem {ts : List (List Char)} {t : List Char} (h : t ∈ ts) (first : Bool) :
    t.length ≤ (entries first ts).length := by
  induction ts generalizing first with
  | nil => cases h
  | cons u us ih =>
      rw [entries]
      simp only [List.length_append]
      rcases List.mem_cons.mp h with rfl | h
      · omega
      · have := ih h false
        omega

/-- An item is shorter than its list. -/
theorem length_lt_listText {p : Padded} {ps : List Padded} (h : p ∈ ps) (gap : Blanks) :
    p.text.length < (listText gap ps).length := by
  have hentry := length_le_of_mem (List.mem_map_of_mem (f := Padded.chars) h) true
  have htext := congrArg List.length (listText_append gap ps [])
  simp only [List.append_nil, List.length_append, List.length_cons, Padded.chars] at htext hentry
  omega

/-- A value is shorter than its object. -/
theorem length_lt_objectText {m : WrittenMember} {ms : List WrittenMember} (h : m ∈ ms)
    (gap : Blanks) : m.value.text.length < (objectText gap ms).length := by
  have hentry := length_le_of_mem (List.mem_map_of_mem (f := WrittenMember.chars) h) true
  have htext := congrArg List.length (objectText_append gap ms [])
  simp only [List.append_nil, List.length_append, List.length_cons, WrittenMember.chars,
    Padded.chars] at htext hentry
  omega

/-- **Values passed over**: every value is accepted, however deep and however large. -/
theorem skimValue_skims {t : List Char} (h : IsValue t) {bound : Nat} (hbound : t.length ≤ bound) :
    Skims (skimValue bound) t := by
  induction h generalizing bound with
  | null => exact fun rest _ => by rw [skimValue.eq_def]; rfl
  | true => exact fun rest _ => by rw [skimValue.eq_def]; rfl
  | false => exact fun rest _ => by rw [skimValue.eq_def]; rfl
  | number h =>
      intro rest hrest
      obtain ⟨c, r, rfl, hdigit⟩ := h.head
      rw [List.cons_append, skimValue_digit hdigit]
      exact skimNumber_skims h rest hrest
  | minus h =>
      intro rest hrest
      rw [List.cons_append, skimValue.eq_def]
      exact skimNumber_skims h rest hrest
  | string h =>
      obtain ⟨r, rfl, hin⟩ := h
      intro rest _
      rw [List.cons_append, skimValue.eq_def]
      exact skimStringTail_skims hin (by simp) rest
  | list gap ps hps ih =>
      intro rest _
      obtain ⟨b, rfl⟩ : ∃ b, bound = b + 1 :=
        ⟨bound - 1, by simp [listText] at hbound; omega⟩
      have hitems : ∀ p ∈ ps, StartsItem p.text ∧ Skims (skimValue b) p.text := fun p hp =>
        ⟨(hps p hp).startsItem, ih p hp (by have := length_lt_listText hp gap; omega)⟩
      have hlength := entries_length Padded.chars ps (fun p hp => Padded.chars_ne_nil (hitems p hp).1)
        true
      rw [listText_append, skimValue.eq_def]
      refine skimItems_entries hitems ?_ true gap rest
      simp only [List.length_append, List.length_cons]
      omega
  | object gap ms hkey _ ih =>
      intro rest _
      obtain ⟨b, rfl⟩ : ∃ b, bound = b + 1 :=
        ⟨bound - 1, by simp [objectText] at hbound; omega⟩
      have hmembers : ∀ m ∈ ms, IsString m.key.text ∧ Skims (skimValue b) m.value.text := fun m hm =>
        ⟨hkey m hm, ih m hm (by have := length_lt_objectText hm gap; omega)⟩
      have hlength := entries_length WrittenMember.chars ms (fun m _ => m.chars_ne_nil) true
      rw [objectText_append, skimValue.eq_def]
      refine skimMembers_entries (skimValue_ignoresBlanks b) hmembers ?_ true gap rest
      simp only [List.length_append, List.length_cons]
      omega

/-- A value of no interest. -/
theorem skim_value {t : List Char} (h : IsValue t) (b : Blanks) {rest : List Char}
    (hrest : Apart rest) : skim (b.chars ++ (t ++ rest)) = .ok rest := by
  rw [skim, skimValue_ignoresBlanks]
  refine skimValue_skims h ?_ rest hrest
  simp only [List.length_append]
  omega

end CameraGraph.Json
