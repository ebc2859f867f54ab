import CameraGraph.Proofs.Json.Extent
import Mathlib.Data.List.Nodup
import Mathlib.Data.List.Perm.Basic
import Mathlib.Data.List.Pairwise

/-!
# CameraGraph.Proofs.Json.Members

Decoders on well-formed text, and what the members of an object add up to.

Every decoder is `Local`: it ignores blanks before a value, and stops where the value does. Hence a
record in an object is read member by member (`readMembers`), whatever stands around them, and a record
comes out of it exactly if every member can be read on its own, no known key comes twice and no
required one is missing (`recordOf_eq_ok`).
-/

namespace CameraGraph.Json

variable {α β ρ : Type}

/-- A reader of values: blanks before a value make no difference, and reading stops where the value
does. -/
structure Local (read : Decoder α) : Prop where
  /-- Blanks before a value make no difference. -/
  blanks : ∀ depth, IgnoresBlanks (read depth)
  /-- Reading stops where the value does. -/
  stops : ∀ depth {t : List Char}, IsValue t → Stops (read depth) t

theorem anyValue_local : Local anyValue := ⟨value_ignoresBlanks, fun depth _ h => value_stops h depth⟩

theorem via_local {first : Decoder α} (h : Local first) (read : α → Except Error β) :
    Local (via first read) where
  blanks depth b s := by
    rw [via, via, h.blanks depth b s]
  stops depth t ht := by
    refine ((h.stops depth ht).map read).of_eq fun rest _ => ?_
    rw [via]
    cases first depth (t ++ rest) with
    | error e => rfl
    | ok p =>
        simp only [ok_bind]
        cases read p.1 <;> rfl

theorem outcome_via (first : Decoder α) (read : α → Except Error β) (depth : Nat) (t : List Char) :
    outcome (via first read depth) t = outcome (first depth) t >>= read := by
  rw [outcome, outcome, via]
  cases first depth t with
  | error e => rfl
  | ok p =>
      show (read p.1 >>= fun b => pure (b, p.2)).map Prod.fst = read p.1
      cases read p.1 <;> rfl

theorem Field.optional_local {read : Decoder α} (h : Local read) (key : String) (set : α → ρ → ρ) :
    Local (Field.optional key read set).read :=
  via_local h fun a => .ok (set a)

theorem Field.needed_local {read : Decoder α} (h : Local read) (key : String) (set : α → ρ → ρ) :
    Local (Field.needed key read set).read :=
  Field.optional_local h key set

/-! ### Values of one kind -/

/-- The first character of a value tells its kind. -/
theorem IsValue.kind {c : Char} {r : List Char} (h : IsValue (c :: r)) :
    c ≠ ',' ∧ (c = 'n' → r = ['u', 'l', 'l']) ∧ (c = '"' → InString r) ∧
    (c = '[' → ∃ gap ps, c :: r = listText gap ps ∧ ∀ p ∈ ps, IsValue p.text) ∧
    (c = '\x7b' → ∃ gap ms, c :: r = objectText gap ms ∧ ∀ m ∈ ms, m.WellFormed) := by
  generalize ht : c :: r = t at h
  cases h with
  | number h =>
      obtain ⟨d, u, rfl, hdigit⟩ := h.head
      cases ht
      refine ⟨?_, ?_, ?_, ?_, ?_⟩ <;> rintro rfl <;> exact absurd hdigit (by decide)
  | string h =>
      obtain ⟨u, rfl, hin⟩ := h
      cases ht
      refine ⟨by decide, ?_, fun _ => hin, ?_, ?_⟩ <;> exact fun hc => absurd hc (by decide)
  | list gap ps hps =>
      obtain ⟨rfl, -⟩ := List.cons.inj ht
      refine ⟨by decide, ?_, ?_, fun _ => ⟨gap, ps, rfl, hps⟩, ?_⟩ <;>
        exact fun hc => absurd hc (by decide)
  | object gap ms hkey hms =>
      obtain ⟨rfl, -⟩ := List.cons.inj ht
      refine ⟨by decide, ?_, ?_, ?_, fun _ => ⟨gap, ms, rfl, fun m hm => ⟨hkey m hm, hms m hm⟩⟩⟩ <;>
        exact fun hc => absurd hc (by decide)
  | _ =>
      cases ht
      simp

theorem refuse_plain {c : Char} (hspace : isSpace c = false) (hlist : c ≠ '[') (hobject : c ≠ '\x7b')
    (wanted : String) (s : List Char) :
    refuse wanted (c :: s) = match outcome (value 0) (c :: s) with
      | .ok v => .misshapen (.wrongKind v.found wanted)
      | .error e => e := by
  rw [refuse, skipSpace_cons hspace, outcome]
  split
  case h_3 => cases value 0 (c :: s) <;> rfl
  all_goals simp_all

/-- What a value of the wrong kind is refused with does not depend on what follows. -/
theorem refuse_append {t rest : List Char} (h : IsValue t) (hrest : Apart rest) (wanted : String) :
    refuse wanted (t ++ rest) = refuse wanted t := by
  have hvalue := value_stops h 0 rest hrest
  obtain ⟨c, r, rfl, hspace, -⟩ := h.startsItem
  by_cases hlist : c = '['
  · subst hlist
    rfl
  by_cases hobject : c = '\x7b'
  · subst hobject
    rfl
  rw [List.cons_append] at hvalue ⊢
  rw [refuse_plain hspace hlist hobject, refuse_plain hspace hlist hobject, outcome, hvalue]
  cases outcome (value 0) (c :: r) <;> rfl

/-- A decoder that wants values of one kind and refuses all others. -/
theorem local_of_refusal {read : Decoder α} (wanted : String) (opening : List Char)
    (hblanks : ∀ depth, IgnoresBlanks (read depth))
    (hrefuse : ∀ depth {c s}, c ∉ opening → isSpace c = false →
      read depth (c :: s) = .error (refuse wanted (c :: s)))
    (hstops : ∀ depth {c r}, c ∈ opening → IsValue (c :: r) → Stops (read depth) (c :: r)) :
    Local read where
  blanks := hblanks
  stops depth t ht := by
    have happend (rest : List Char) (hrest : Apart rest) := refuse_append ht hrest wanted
    obtain ⟨c, r, rfl, hspace, -⟩ := ht.startsItem
    by_cases hc : c ∈ opening
    · exact hstops depth hc ht
    · refine Stops.of_outcome (.error (refuse wanted (c :: r))) fun rest hrest => ?_
      rw [← happend rest hrest]
      exact hrefuse depth hc hspace

theorem text_local : Local text := by
  refine local_of_refusal "a string" ['"'] (fun depth b s => ?_) (fun depth c s hc hspace => ?_)
    fun depth c r hc ht => ?_
  · unfold text
    rw [skipSpace_blanks]
  · unfold text
    rw [skipSpace_cons hspace]
    split
    case h_1 heq => exact absurd (List.cons.inj heq).1 (List.ne_of_not_mem_cons hc)
    case h_2 => rfl
  · obtain rfl := List.mem_singleton.mp hc
    have hstops : Stops string r := fun rest _ => string_stops (ht.kind.2.2.1 rfl) rest
    exact hstops.of_eq fun rest _ => rfl

/-- What is not `null` is read as it is. -/
theorem optional_eq {c : Char} (hspace : isSpace c = false) (hnull : c ≠ 'n') (read : Decoder α)
    (depth : Nat) (s : List Char) :
    optional read depth (c :: s) =
      read depth (c :: s) >>= fun p => (Except.ok (some p.1)).map (·, p.2) := by
  unfold optional
  rw [skipSpace_cons hspace]
  split
  case h_1 heq => exact absurd (List.cons.inj heq).1 hnull
  case h_2 => rfl

theorem outcome_optional {c : Char} (hspace : isSpace c = false) (hnull : c ≠ 'n') (read : Decoder α)
    (depth : Nat) (s : List Char) :
    outcome (optional read depth) (c :: s) = (outcome (read depth) (c :: s)).map some := by
  rw [outcome, outcome, optional_eq hspace hnull]
  cases read depth (c :: s) <;> rfl

theorem optional_local {read : Decoder α} (h : Local read) : Local (optional read) where
  blanks depth b s := by
    unfold optional
    rw [skipSpace_blanks]
  stops depth t ht := by
    have hread := h.stops depth ht
    obtain ⟨c, r, rfl, hspace, -⟩ := ht.startsItem
    by_cases hnull : c = 'n'
    · subst hnull
      obtain rfl := ht.kind.2.1 rfl
      exact Stops.of_outcome (.ok none) fun rest _ => rfl
    · exact (hread.map fun a => .ok (some a)).of_eq fun rest _ =>
        optional_eq hspace hnull read depth (r ++ rest)

theorem listOf_listText {item : Decoder α} (h : Local item) (depth : Nat) {ps : List Padded}
    (hps : ∀ p ∈ ps, IsValue p.text) (gap : Blanks) (rest : List Char) :
    listOf item (depth + 1) (listText gap ps ++ rest) =
      (ps.mapM fun p => outcome (item depth) p.text).map (·, rest) := by
  rw [listText_append]
  exact items_listText (fun p hp => ⟨(hps p hp).startsItem, h.stops depth (hps p hp)⟩) gap rest

theorem mapOf_objectText {read : Decoder α} (h : Local read) (depth : Nat) {ms : List WrittenMember}
    (hms : ∀ m ∈ ms, m.WellFormed) (gap : Blanks) (rest : List Char) :
    mapOf read (depth + 1) (objectText gap ms ++ rest) =
      (ms.mapM (memberOutcome (read depth))).map (·, rest) := by
  rw [objectText_append]
  exact members_objectText (h.blanks depth)
    (fun m hm => ⟨(hms m hm).1, h.stops depth (hms m hm).2⟩) gap rest

theorem listOf_local {item : Decoder α} (h : Local item) : Local (listOf item) := by
  refine local_of_refusal "a sequence" ['['] (fun depth b s => ?_) (fun depth c s hc hspace => ?_)
    fun depth c r hc ht => ?_
  · unfold listOf
    rw [skipSpace_blanks]
  · unfold listOf
    rw [skipSpace_cons hspace]
    split
    case h_3 => rfl
    all_goals
      rename_i heq
      exact absurd (List.cons.inj heq).1 (List.ne_of_not_mem_cons hc)
  · obtain rfl := List.mem_singleton.mp hc
    obtain ⟨gap, ps, htext, hps⟩ := ht.kind.2.2.2.1 rfl
    rw [htext]
    cases depth with
    | zero => exact Stops.of_outcome (.error (.malformed .depth)) fun rest _ => rfl
    | succ d => exact Stops.of_outcome _ fun rest _ => listOf_listText h d hps gap rest

theorem mapOf_local {read : Decoder α} (h : Local read) : Local (mapOf read) := by
  refine local_of_refusal "a map" ['\x7b'] (fun depth b s => ?_) (fun depth c s hc hspace => ?_)
    fun depth c r hc ht => ?_
  · unfold mapOf
    rw [skipSpace_blanks]
  · unfold mapOf
    rw [skipSpace_cons hspace]
    split
    case h_3 => rfl
    all_goals
      rename_i heq
      exact absurd (List.cons.inj heq).1 (List.ne_of_not_mem_cons hc)
  · obtain rfl := List.mem_singleton.mp hc
    obtain ⟨gap, ms, htext, hms⟩ := ht.kind.2.2.2.2 rfl
    rw [htext]
    cases depth with
    | zero => exact Stops.of_outcome (.error (.malformed .depth)) fun rest _ => rfl
    | succ d => exact Stops.of_outcome _ fun rest _ => mapOf_objectText h d hms gap rest

/-! ### Records -/

namespace Shape

variable {shape : Shape ρ}

/-- What the members of an object make of a record, one after the other, with the keys they have. -/
def readMembers (shape : Shape ρ) (depth : Nat) :
    (seen : List String) → ρ → List WrittenMember → Except Error (ρ × List String)
  | seen, record, [] => .ok (record, seen)
  | seen, record, m :: ms => do
    let key ← m.name
    match shape.fields.find? (·.key == key) with
    | some f =>
      if seen.contains key then throw (.misshapen (.repeated key))
      let change ← outcome (f.read depth) m.value.text
      shape.readMembers depth (key :: seen) (change record) ms
    | none => shape.readMembers depth (key :: seen) record ms

/-- The record of the members of an object. -/
def recordOf (shape : Shape ρ) (depth : Nat) (ms : List WrittenMember) : Except Error ρ := do
  let (record, seen) ← shape.readMembers depth [] shape.empty ms
  match shape.fields.find? fun f => f.required && !seen.contains f.key with
  | some f => throw (.misshapen (.missing f.key))
  | none => return record

/-- A known member takes one step, and so does an unknown one, whatever its value is. -/
theorem fromMembers_entries (hfields : ∀ f ∈ shape.fields, Local f.read) (depth : Nat)
    {ms : List WrittenMember} (h : ∀ m ∈ ms, m.WellFormed) {bound : Nat}
    (hbound : ms.length < bound) (seen : List String) (record : ρ) (gap : Blanks)
    (rest : List Char) :
    shape.fromMembers depth bound seen record
        (gap.chars ++ (entries seen.isEmpty (ms.map WrittenMember.chars) ++ '\x7d' :: rest)) =
      (shape.readMembers depth seen record ms).map fun p => (p.1, p.2, rest) := by
  induction ms generalizing bound seen record gap with
  | nil =>
      obtain ⟨k, rfl⟩ : ∃ k, bound = k + 1 := ⟨bound - 1, by omega⟩
      rw [List.map_nil, entries, List.nil_append, fromMembers, nextKey_close]
      rfl
  | cons m ms ih =>
      obtain ⟨k, rfl⟩ : ∃ k, bound = k + 1 := ⟨bound - 1, by omega⟩
      obtain ⟨⟨key, hkey, hin⟩, hvalue⟩ := h m List.mem_cons_self
      have hrest (name : String) := ih (fun n hn => h n (List.mem_cons_of_mem m hn))
        (Nat.lt_of_succ_lt_succ hbound) (name :: seen)
      have hapart := apart_entries m.value.after (ms.map WrittenMember.chars)
        (List.mem_cons_of_mem _ List.mem_cons_self) rest
      simp only [List.map_cons, entries, WrittenMember.chars, Padded.chars, List.append_assoc,
        List.cons_append, hkey, List.isEmpty_cons] at hrest hapart ⊢
      rw [fromMembers, nextKey_entry, ok_bind, readMembers]
      simp only [string_stops hin, WrittenMember.name, hkey, List.drop_succ_cons, List.drop_zero]
      cases outcome string key with
      | error e => rfl
      | ok name =>
          simp only [Except.map, ok_bind, colon_blanks]
          cases hfind : shape.fields.find? (·.key == name) with
          | none =>
              simp only [skim_value hvalue m.value.before hapart, ok_bind, hrest]
              rfl
          | some f =>
              have hlocal := hfields f (List.mem_of_find?_eq_some hfind)
              simp only [hlocal.blanks depth m.value.before, hlocal.stops depth hvalue _ hapart]
              split
              · rfl
              cases outcome (f.read depth) m.value.text with
              | error e => rfl
              | ok change =>
                  simp only [Except.map, ok_bind, hrest]

theorem fromObject_objectText (hfields : ∀ f ∈ shape.fields, Local f.read) (depth : Nat)
    {ms : List WrittenMember} (h : ∀ m ∈ ms, m.WellFormed) (gap : Blanks) (rest : List Char) :
    shape.fromObject depth
        (gap.chars ++ (entries true (ms.map WrittenMember.chars) ++ '\x7d' :: rest)) =
      (shape.recordOf depth ms).map (·, rest) := by
  have hlength := entries_length WrittenMember.chars ms (fun m _ => m.chars_ne_nil) true
  have hmembers := fromMembers_entries hfields depth h (Nat.lt_succ_of_le (m := (gap.chars ++
    (entries true (ms.map WrittenMember.chars) ++ '\x7d' :: rest)).length)
    (by simp only [List.length_append]; omega)) [] shape.empty gap rest
  rw [List.isEmpty_nil] at hmembers
  rw [fromObject, recordOf, hmembers]
  cases shape.readMembers depth [] shape.empty ms with
  | error e => rfl
  | ok p =>
      simp only [Except.map, ok_bind]
      cases shape.fields.find? fun f => f.required && !p.2.contains f.key <;> rfl

/-- What the items of a list make of a record, one field after the other: a list may stop early unless
a required field is left, and has to stop after the last. -/
def readItems (shape : Shape ρ) (depth : Nat) :
    List (Field ρ) → (index : Nat) → ρ → List Padded → Except Error ρ
  | [], _, record, [] => .ok record
  | [], _, _, _ :: _ => .error (.malformed .trailingText)
  | f :: fs, index, record, [] =>
    match (f :: fs).findIdx? (·.required) with
    | some k => .error (.misshapen (.wrongLength (index + k) shape.wantedLength))
    | none => .ok record
  | f :: fs, index, record, p :: ps => do
    let change ← outcome (f.read depth) p.text
    shape.readItems depth fs (index + 1) (change record) ps

theorem endList_close (gap : Blanks) (rest : List Char) :
    endList (gap.chars ++ ']' :: rest) = .ok rest := by
  rw [endList, skipSpace_blanks, skipSpace_cons (by decide)]
  rfl

/-- A list whose wanted items have been read may hold no more of them. -/
theorem endList_entry {p : Padded} (h : IsValue p.text) (first : Bool) (gap : Blanks)
    (s : List Char) :
    endList (gap.chars ++ ((if first then [] else [',']) ++ (p.before.chars ++ (p.text ++ s)))) =
      .error (.malformed .trailingText) := by
  obtain ⟨c, r, hc, hspace, hclose⟩ := h.startsItem
  have hcomma : c ≠ ',' := (hc ▸ h).kind.1
  rw [hc, List.cons_append]
  cases first with
  | true => simp [endList, skipSpace_blanks, skipSpace_cons hspace, hclose, hcomma]
  | false =>
      simp [endList, skipSpace_blanks, skipSpace_cons (by decide : isSpace ',' = false),
        skipSpace_cons hspace, hclose]

theorem fromList_entries {fs : List (Field ρ)} (hfields : ∀ f ∈ fs, Local f.read) (depth : Nat)
    {ps : List Padded} (h : ∀ p ∈ ps, IsValue p.text) (index : Nat) (record : ρ) (gap : Blanks)
    (rest : List Char) :
    shape.fromList depth fs index record
        (gap.chars ++ (entries (index == 0) (ps.map Padded.chars) ++ ']' :: rest)) =
      (shape.readItems depth fs index record ps).map (·, rest) := by
  induction fs generalizing ps index record gap with
  | nil =>
      cases ps with
      | nil =>
          rw [List.map_nil, entries, List.nil_append, fromList, endList_close]
          rfl
      | cons p ps =>
          have hend := endList_entry (h p List.mem_cons_self) (index == 0) gap
          simp only [List.map_cons, entries, Padded.chars, List.append_assoc]
          rw [fromList, hend]
          rfl
  | cons f fs ih =>
      cases ps with
      | nil =>
          rw [List.map_nil, entries, List.nil_append, fromList, nextItem_close, ok_bind, readItems]
          dsimp only
          cases (f :: fs).findIdx? (·.required) <;> rfl
      | cons p ps =>
          have hvalue := h p List.mem_cons_self
          have hrest (change : ρ → ρ) := ih (fun g hg => hfields g (List.mem_cons_of_mem f hg))
            (fun q hq => h q (List.mem_cons_of_mem p hq)) (index + 1) (change record) p.after
          have hapart := apart_entries p.after (ps.map Padded.chars) List.mem_cons_self rest
          have hstops := (hfields f List.mem_cons_self).stops depth hvalue _ hapart
          have hnext : (index + 1 == 0) = false := rfl
          simp only [List.map_cons, entries, Padded.chars, List.append_assoc, hnext] at hrest hstops ⊢
          rw [fromList, nextItem_entry hvalue.startsItem, ok_bind, readItems]
          simp only [hstops]
          cases outcome (f.read depth) p.text with
          | error e => rfl
          | ok change => exact hrest change

/-- **Records.** Reading a record stops where the value does. -/
theorem decoder_local (hfields : ∀ f ∈ shape.fields, Local f.read) : Local shape.decoder := by
  refine local_of_refusal shape.name ['[', '\x7b'] (fun depth b s => ?_)
    (fun depth c s hc hspace => ?_) fun depth c r hc ht => ?_
  · unfold decoder
    rw [skipSpace_blanks]
  · obtain ⟨hlist, hobject⟩ : c ≠ '[' ∧ c ≠ '\x7b' := by simpa using hc
    unfold decoder
    rw [skipSpace_cons hspace]
    split
    case h_5 => rfl
    all_goals
      rename_i heq
      first
        | exact absurd (List.cons.inj heq).1 hlist
        | exact absurd (List.cons.inj heq).1 hobject
  · rcases List.mem_cons.mp hc with rfl | hc
    · obtain ⟨gap, ps, htext, hps⟩ := ht.kind.2.2.2.1 rfl
      rw [htext]
      cases depth with
      | zero => exact Stops.of_outcome (.error (.malformed .depth)) fun rest _ => rfl
      | succ d =>
          refine Stops.of_outcome (shape.readItems d shape.fields 0 shape.empty ps) fun rest _ => ?_
          rw [listText_append]
          exact fromList_entries hfields d hps 0 shape.empty gap rest
    · obtain rfl := List.mem_singleton.mp hc
      obtain ⟨gap, ms, htext, hms⟩ := ht.kind.2.2.2.2 rfl
      rw [htext]
      cases depth with
      | zero => exact Stops.of_outcome (.error (.malformed .depth)) fun rest _ => rfl
      | succ d =>
          refine Stops.of_outcome (shape.recordOf d ms) fun rest _ => ?_
          rw [objectText_append]
          exact fromObject_objectText hfields d hms gap rest

/-- **Objects.** What a record makes of an object is what it makes of its members. -/
theorem decoder_objectText (hfields : ∀ f ∈ shape.fields, Local f.read) (depth : Nat)
    {ms : List WrittenMember} (h : ∀ m ∈ ms, m.WellFormed) (gap : Blanks) :
    outcome (shape.decoder (depth + 1)) (objectText gap ms) = shape.recordOf depth ms :=
  outcome_eq fun rest _ => by
    rw [objectText_append]
    exact fromObject_objectText hfields depth h gap rest

/-! ### What members do -/

/-- Whether a key is one of the shape's. -/
def knows (shape : Shape ρ) (key : String) : Bool := (shape.fields.find? (·.key == key)).isSome

/-- What a member does to a record, read on its own: a member with an unknown key does nothing. -/
def effect (shape : Shape ρ) (depth : Nat) (m : WrittenMember) : Except Error (String × (ρ → ρ)) := do
  let key ← m.name
  match shape.fields.find? (·.key == key) with
  | some f => return (key, ← outcome (f.read depth) m.value.text)
  | none => return (key, id)

/-- The known keys among those of some members. -/
def knownKeys (shape : Shape ρ) (es : List (String × (ρ → ρ))) : List String :=
  (es.filter fun e => shape.knows e.1).map Prod.fst

theorem knows_of_mem_knownKeys {es : List (String × (ρ → ρ))} {key : String}
    (h : key ∈ shape.knownKeys es) : shape.knows key = true := by
  obtain ⟨e, he, rfl⟩ := List.mem_map.mp h
  simpa using (List.mem_filter.mp he).2

theorem knownKeys_cons (e : String × (ρ → ρ)) (es : List (String × (ρ → ρ))) :
    shape.knownKeys (e :: es) =
      if shape.knows e.1 = true then e.1 :: shape.knownKeys es else shape.knownKeys es := by
  rw [knownKeys, List.filter_cons]
  split <;> rfl

/-- The known keys are new as long as each of them is when its turn comes. -/
theorem knownKeys_cons_fresh (e : String × (ρ → ρ)) (es : List (String × (ρ → ρ)))
    (seen : List String) :
    ((shape.knownKeys (e :: es)).Nodup ∧ ∀ key ∈ shape.knownKeys (e :: es), key ∉ seen) ↔
      (shape.knows e.1 = true → e.1 ∉ seen) ∧
        (shape.knownKeys es).Nodup ∧ ∀ key ∈ shape.knownKeys es, key ∉ e.1 :: seen := by
  rw [knownKeys_cons]
  split
  case isTrue hknows =>
    rw [List.nodup_cons, List.forall_mem_cons]
    simp only [List.mem_cons, not_or, hknows, forall_true_left]
    constructor
    · rintro ⟨⟨hfresh, hnodup⟩, hnew, hseen⟩
      refine ⟨hnew, hnodup, fun key hkey => ⟨?_, hseen key hkey⟩⟩
      rintro rfl
      exact hfresh hkey
    · rintro ⟨hnew, hnodup, hseen⟩
      exact ⟨⟨fun hmem => (hseen _ hmem).1 rfl, hnodup⟩, hnew, fun key hkey => (hseen key hkey).2⟩
  case isFalse hknows =>
    simp only [List.mem_cons, not_or]
    constructor
    · rintro ⟨hnodup, hseen⟩
      refine ⟨fun h => absurd h hknows, hnodup, fun key hkey => ⟨?_, hseen key hkey⟩⟩
      rintro rfl
      exact hknows (knows_of_mem_knownKeys hkey)
    · rintro ⟨-, hnodup, hseen⟩
      exact ⟨hnodup, fun key hkey => (hseen key hkey).2⟩

theorem error_bind (e : Error) (f : α → Except Error β) : (Except.error e >>= f) = .error e := rfl

theorem throw_eq_error (e : Error) : (throw e : Except Error α) = .error e := rfl

/-- The members before are of no concern to a member, unless they have its key. -/
theorem readMembers_cons (depth : Nat) (seen : List String) (record : ρ) (m : WrittenMember)
    (ms : List WrittenMember) (p : ρ × List String) :
    shape.readMembers depth seen record (m :: ms) = .ok p ↔
      ∃ e, shape.effect depth m = .ok e ∧ (shape.knows e.1 = true → e.1 ∉ seen) ∧
        shape.readMembers depth (e.1 :: seen) (e.2 record) ms = .ok p := by
  rw [readMembers, effect]
  cases m.name with
  | error e => simp [error_bind]
  | ok key =>
      simp only [ok_bind]
      cases hfind : shape.fields.find? (·.key == key) with
      | none =>
          have hknows : shape.knows key = false := by rw [knows, hfind]; rfl
          simp [hknows]
      | some f =>
          have hknows : shape.knows key = true := by rw [knows, hfind]; rfl
          dsimp only
          by_cases hseen : key ∈ seen <;> cases outcome (f.read depth) m.value.text <;>
            simp [hseen, hknows, throw_eq_error, error_bind]

/-- Reading members succeeds exactly if each of them can be read on its own and no known key comes
twice. -/
theorem readMembers_eq_ok (depth : Nat) (seen : List String) (record : ρ) (ms : List WrittenMember)
    (p : ρ × List String) :
    shape.readMembers depth seen record ms = .ok p ↔
      ∃ es, List.Forall₂ (fun m e => shape.effect depth m = .ok e) ms es ∧
        ((shape.knownKeys es).Nodup ∧ ∀ key ∈ shape.knownKeys es, key ∉ seen) ∧
        p = (es.foldl (fun r e => e.2 r) record, (es.map Prod.fst).reverse ++ seen) := by
  induction ms generalizing seen record with
  | nil =>
      simp only [List.forall₂_nil_left_iff, readMembers, Except.ok.injEq]
      constructor
      · rintro rfl
        exact ⟨[], rfl, ⟨List.nodup_nil, by simp [knownKeys]⟩, rfl⟩
      · rintro ⟨_, rfl, -, rfl⟩
        rfl
  | cons m ms ih =>
      simp only [readMembers_cons, ih, List.forall₂_cons_left_iff]
      constructor
      · rintro ⟨e, he, hnew, es, hes, hfresh, rfl⟩
        exact ⟨e :: es, ⟨e, es, he, hes, rfl⟩, (knownKeys_cons_fresh e es seen).mpr ⟨hnew, hfresh⟩,
          by simp⟩
      · rintro ⟨_, ⟨e, es, he, hes, rfl⟩, hfresh, rfl⟩
        obtain ⟨hnew, hfresh⟩ := (knownKeys_cons_fresh e es seen).mp hfresh
        exact ⟨e, he, hnew, es, hes, hfresh, by simp⟩

/-- No required field is missing. -/
theorem find?_missing (keys : List String) :
    (shape.fields.find? fun f => f.required && !keys.reverse.contains f.key) = none ↔
      ∀ f ∈ shape.fields, f.required = true → f.key ∈ keys := by
  rw [List.find?_eq_none]
  simp

/-- **Records in objects.** A record comes out of the members of an object exactly if each of them can
be read on its own, no known key comes twice and no required one is missing. -/
theorem recordOf_eq_ok (depth : Nat) (ms : List WrittenMember) (r : ρ) :
    shape.recordOf depth ms = .ok r ↔
      ∃ es, List.Forall₂ (fun m e => shape.effect depth m = .ok e) ms es ∧
        (shape.knownKeys es).Nodup ∧
        (∀ f ∈ shape.fields, f.required = true → f.key ∈ es.map Prod.fst) ∧
        es.foldl (fun r e => e.2 r) shape.empty = r := by
  rw [recordOf]
  constructor
  · intro h
    cases hread : shape.readMembers depth [] shape.empty ms with
    | error e =>
        rw [hread] at h
        cases h
    | ok p =>
        obtain ⟨es, hes, ⟨hnodup, -⟩, rfl⟩ := (readMembers_eq_ok ..).mp hread
        rw [hread, ok_bind, List.append_nil] at h
        dsimp only at h
        split at h
        case h_1 => cases h
        case h_2 hnone => exact ⟨es, hes, hnodup, (find?_missing _).mp hnone, Except.ok.inj h⟩
  · rintro ⟨es, hes, hnodup, hrequired, rfl⟩
    have hread := (readMembers_eq_ok depth [] shape.empty ms _).mpr
      ⟨es, hes, ⟨hnodup, fun _ _ => List.not_mem_nil⟩, rfl⟩
    rw [hread, ok_bind, List.append_nil]
    dsimp only
    rw [(find?_missing _).mpr hrequired]
    rfl

end Shape

/-! ### Documents -/

/-- A text with its blanks. -/
def Padded.string (p : Padded) : String := String.ofList p.chars

/-- **Documents.** A document is one value, with blanks around it. -/
theorem whole_padded {read : Decoder α} (h : Local read) (depth : Nat) {p : Padded}
    (hp : IsValue p.text) : whole (read depth) p.string = outcome (read depth) p.text := by
  have hapart : Apart p.after.chars := by
    have := Apart.blanks p.after apart_nil
    rwa [List.append_nil] at this
  have hend : skipSpace p.after.chars = [] := by
    have := skipSpace_blanks p.after []
    rwa [List.append_nil] at this
  rw [whole, Padded.string, String.toList_ofList, Padded.chars, h.blanks depth p.before,
    h.stops depth hp _ hapart]
  cases outcome (read depth) p.text with
  | error e => rfl
  | ok a =>
      simp only [Except.map, ok_bind]
      rw [if_pos hend]
      rfl

end CameraGraph.Json
