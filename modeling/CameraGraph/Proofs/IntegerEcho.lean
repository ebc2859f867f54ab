import CameraGraph.Proofs.MemberOrder
import CameraGraph.Proofs.NumericKnobs

/-!
# CameraGraph.Proofs.IntegerEcho

Integers in documents come back digit for digit.

An integer that 64 bits can hold, with a sign or without, is kept as the integer it is and not as a
binary number, and its decimal text is the text it was written with. So the texts of a camera that may
be given as numbers are the digits of the document, and so are the coordinates of a region, of which the
last counts if one is repeated.
-/

namespace CameraGraph

open Json

/-! ### Digits -/

/-- The running value of digits, from a value on. -/
def digitsValueFrom (n : Nat) (ds : List Char) : Nat := ds.foldl (fun n c => 10 * n + digitValue c) n

theorem digitsValueFrom_zero (ds : List Char) : digitsValueFrom 0 ds = digitsValue ds := rfl

theorem le_digitsValueFrom (n : Nat) (ds : List Char) : n ≤ digitsValueFrom n ds := by
  induction ds generalizing n with
  | nil => exact Nat.le_refl n
  | cons d ds ih =>
      have hrest := ih (10 * n + digitValue d)
      rw [digitsValueFrom, List.foldl_cons]
      exact le_trans (by omega) hrest

/-- Digits are taken to the last one if their value fits. -/
theorem takeDigits_eq {ds : List Char} {n : Nat} (h : digitsValueFrom n ds < 0x10000000000000000) :
    takeDigits n ds = (digitsValueFrom n ds, []) := by
  induction ds generalizing n with
  | nil => rfl
  | cons d ds ih =>
      have hstep : n * 10 + (d.toNat - '0'.toNat) = 10 * n + digitValue d := by
        rw [digitValue, Nat.mul_comm]
      have hfits : 10 * n + digitValue d < 0x10000000000000000 :=
        lt_of_le_of_lt (le_digitsValueFrom _ ds) h
      rw [takeDigits, hstep]
      simp only [if_pos hfits]
      exact ih h

theorem toNat_of_isDigit {d : Char} (h : d.isDigit = true) :
    d.toNat = 48 + digitValue d ∧ digitValue d < 10 := by
  have hrange := Char.isDigit_iff_toNat.mp h
  have hzero : '0'.toNat = 48 := rfl
  have hnine : '9'.toNat = 57 := rfl
  rw [digitValue]
  omega

theorem digitChar_digitValue {d : Char} (h : d.isDigit = true) : Nat.digitChar (digitValue d) = d := by
  obtain ⟨hvalue, hlt⟩ := toNat_of_isDigit h
  exact Char.toNat_inj.mp ((Nat.toNat_digitChar_of_lt_ten hlt).trans hvalue.symm)

theorem natDigits_digitValue {d : Char} (h : d.isDigit = true) : natDigits (digitValue d) = [d] := by
  rw [natDigits, Nat.toDigits_of_lt_base (toNat_of_isDigit h).2, digitChar_digitValue h]

/-- Digits behind a number are the digits of the number they make. -/
theorem natDigits_append {n : Nat} (hn : 0 < n) {ds : List Char} (h : ∀ d ∈ ds, d.isDigit = true) :
    natDigits n ++ ds = natDigits (digitsValueFrom n ds) := by
  induction ds generalizing n with
  | nil => exact List.append_nil _
  | cons d ds ih =>
      obtain ⟨hd, hds⟩ := List.forall_mem_cons.mp h
      have hlast : natDigits n ++ [d] = natDigits (10 * n + digitValue d) := by
        have hdigits := Nat.toDigits_append_toDigits (by decide : 1 < 10) hn (toNat_of_isDigit hd).2
        rwa [← natDigits, ← natDigits, natDigits_digitValue hd] at hdigits
      rw [← List.singleton_append, ← List.append_assoc, hlast, ih (by omega) hds]
      rfl

/-- **Digits.** Of an integer without needless zeros, the digits of its value are its own. -/
theorem natDigits_digitsValue {ds : List Char} (h : IsInteger ds) :
    natDigits (digitsValue ds) = ds := by
  obtain ⟨⟨hne, hdigits⟩, hzero⟩ := h
  obtain ⟨d, r, rfl⟩ := List.exists_cons_of_ne_nil hne
  obtain ⟨hd, hr⟩ := List.forall_mem_cons.mp hdigits
  by_cases hd0 : d = '0'
  · cases (List.cons.inj (hzero (congrArg some hd0))).2
    rw [hd0]
    decide
  · have hpos : 0 < digitValue d := by
      by_contra hnone
      have hvalue := (toNat_of_isDigit hd).1
      exact hd0 (Char.toNat_inj.mp (hvalue.trans (by rw [Nat.eq_zero_of_not_pos hnone]; rfl)))
    have hall := natDigits_append hpos hr
    rw [natDigits_digitValue hd, List.singleton_append] at hall
    have hvalue : digitsValue (d :: r) = digitsValueFrom (digitValue d) r := by
      rw [← digitsValueFrom_zero, digitsValueFrom, List.foldl_cons, Nat.mul_zero, Nat.zero_add]
      rfl
    rw [hvalue, hall]

/-! ### Integer literals -/

/-- An integer that 64 bits can hold, from the least with a sign to the greatest without. A zero with a
sign is none. -/
def IsWhole (t : List Char) : Prop :=
  ∃ ds, IsInteger ds ∧
    let n := Nat.ofDigits 10 (ds.reverse.map digitValue)
    t = ds ∧ n < 0x10000000000000000 ∨ t = '-' :: ds ∧ 0 < n ∧ n ≤ 0x8000000000000000

theorem isUnsigned_of_isInteger {ds : List Char} (h : IsInteger ds) : IsUnsigned ds :=
  ⟨ds, [], [], by simp, h, .inl rfl, .inl rfl⟩

theorem IsWhole.isValue {t : List Char} (h : IsWhole t) : IsValue t := by
  obtain ⟨ds, hds, ⟨rfl, -⟩ | ⟨rfl, -⟩⟩ := h
  · exact .number (isUnsigned_of_isInteger hds)
  · exact .minus (isUnsigned_of_isInteger hds)

/-- What is taken off a text that holds an integer only. -/
theorem number_eq {ds : List Char} (h : IsInteger ds) (negative : Bool) :
    number negative ds = numberAfter negative ds [] := by
  have hread := number_append h apart_nil.noDigit negative
  rwa [List.append_nil] at hread

/-- **Integers** are read as integers, and their text is as they were written. -/
theorem IsWhole.outcome_value {t : List Char} (h : IsWhole t) (depth : Nat) :
    ∃ z, outcome (value depth) t = .ok (.number (.integer z)) ∧ intText z = String.ofList t := by
  obtain ⟨ds, hds, hrange⟩ := h
  have hdigits := natDigits_digitsValue hds
  simp only [← digitsValue_eq_ofDigits] at hrange
  have htake (hfits : digitsValue ds < 0x10000000000000000) :
      takeDigits 0 ds = (digitsValue ds, []) := takeDigits_eq hfits
  rcases hrange with ⟨rfl, hfits⟩ | ⟨rfl, hpos, hle⟩
  · refine ⟨digitsValue t, ?_, ?_⟩
    · have hnumber := number_eq hds false
      obtain ⟨c, r, rfl, hdigit⟩ := (isUnsigned_of_isInteger hds).head
      rw [outcome, value_digit hdigit, hnumber, numberAfter, htake hfits]
      rfl
    · rw [intText, if_neg (by omega), natText, Int.natAbs_natCast, hdigits]
  · refine ⟨-(digitsValue ds : Int), ?_, ?_⟩
    · have hfits : digitsValue ds < 0x10000000000000000 := by omega
      have hnumber := number_eq hds true
      have hsign : (decide (0 < digitsValue ds) && decide (digitsValue ds ≤ 0x8000000000000000)) =
          true := by
        simp [hpos, hle]
      rw [outcome, value_minus, hnumber, numberAfter, htake hfits]
      simp only [hsign]
      rfl
    · rw [intText, if_pos (by omega), Int.natAbs_neg, Int.natAbs_natCast, hdigits]

theorem IsWhole.head {t : List Char} (h : IsWhole t) :
    ∃ c r, t = c :: r ∧ isSpace c = false ∧ c ≠ 'n' := by
  obtain ⟨ds, hds, ⟨rfl, -⟩ | ⟨rfl, -⟩⟩ := h
  · obtain ⟨c, r, rfl, hdigit⟩ := (isUnsigned_of_isInteger hds).head
    obtain ⟨hnull, -, -, -, hspace⟩ := isDigit_ne hdigit
    exact ⟨c, r, rfl, hspace, hnull⟩
  · exact ⟨_, _, rfl, by decide, by decide⟩

/-! ### Texts of cameras -/

namespace Camera

theorem outcome_scalar {t : List Char} (h : IsWhole t) (depth : Nat) :
    outcome (scalar depth) t = .ok (some (String.ofList t)) := by
  obtain ⟨z, hvalue, htext⟩ := h.outcome_value depth
  obtain ⟨c, r, rfl, hspace, hnull⟩ := h.head
  rw [scalar, outcome_via, outcome_optional hspace hnull, anyValue, hvalue, ← htext]
  rfl

/-- A text of a camera that may be given as a number: its key, and its place. -/
structure TextField where
  /-- The key. -/
  key : String
  /-- The text of a camera. -/
  get : Camera → Option String
  /-- The camera with another text. -/
  set : Option String → Camera → Camera

/-- The texts of a camera that may be given as numbers. -/
def textFields : List TextField :=
  [⟨"camera_id", cameraId, fun v c => { c with cameraId := v }⟩,
    ⟨"fileSrc", fileSource, fun v c => { c with fileSource := v }⟩,
    ⟨"width", width, fun v c => { c with width := v }⟩,
    ⟨"fps", fps, fun v c => { c with fps := v }⟩,
    ⟨"streamUri", streamUri, fun v c => { c with streamUri := v }⟩,
    ⟨"stream_uri", streamUriPlain, fun v c => { c with streamUriPlain := v }⟩,
    ⟨"rtspUri", rtspUri, fun v c => { c with rtspUri := v }⟩,
    ⟨"rtsp_url", rtspUrl, fun v c => { c with rtspUrl := v }⟩]

theorem get_set : ∀ f ∈ textFields, ∀ v c, f.get (f.set v c) = v := by
  simp [textFields]

theorem find?_textField : ∀ f ∈ textFields,
    shape.fields.find? (·.key == f.key) = some (.optional f.key scalar f.set) := by
  simp only [textFields, List.forall_mem_cons]
  exact ⟨rfl, rfl, rfl, rfl, rfl, rfl, rfl, rfl, List.forall_mem_nil _⟩

theorem not_required : ∀ f ∈ shape.fields, f.required = false := by
  simp only [shape, List.forall_mem_cons]
  exact ⟨rfl, rfl, rfl, rfl, rfl, rfl, rfl, rfl, rfl, rfl, List.forall_mem_nil _⟩

end Camera

/-! ### Regions -/

/-- The last of the members that have a name. -/
def lastNamed (name : String) (ms : List WrittenMember) : Option WrittenMember :=
  (ms.filter fun m => m.name.toOption == some name).getLast?

/-- The text of a coordinate, or its default when it is left out. -/
def coordinateText (rs : List WrittenMember) (key default : String) : String :=
  match lastNamed key rs with
  | some m => String.ofList m.value.text
  | none => default

/-- The text of the region of an object, which is none if the object has no members. -/
def regionText (rs : List WrittenMember) : Option String :=
  if rs = [] then none
  else some (",".intercalate [coordinateText rs "x" "0", coordinateText rs "y" "0",
    coordinateText rs "x2" "1", coordinateText rs "y2" "1"])

/-- The members of a region whose coordinates are integers. Other members may hold any values that can
be read `depth` deep. -/
structure WholeRegion (depth : Nat) (rs : List WrittenMember) : Prop where
  /-- Well-formed members, -/
  wellFormed : ∀ m ∈ rs, m.WellFormed
  /-- all of which can be read, -/
  readable : ∀ m ∈ rs, ∃ entry, memberOutcome (value depth) m = .ok entry
  /-- with integers for coordinates. -/
  whole : ∀ m ∈ rs, ∀ key ∈ ["x", "y", "x2", "y2"], m.name = .ok key → IsWhole m.value.text

theorem exists_mapM {α β : Type} {f : α → Except Json.Error β} {as : List α}
    (h : ∀ a ∈ as, ∃ b, f a = .ok b) :
    ∃ bs, as.mapM f = .ok bs ∧ List.Forall₂ (fun a b => f a = .ok b) as bs := by
  induction as with
  | nil => exact ⟨[], rfl, .nil⟩
  | cons a as ih =>
      obtain ⟨⟨b, hb⟩, hrest⟩ := List.forall_mem_cons.mp h
      obtain ⟨bs, hbs, hall⟩ := ih hrest
      refine ⟨b :: bs, ?_, .cons hb hall⟩
      rw [List.mapM_cons, hb, ok_bind, hbs]
      rfl

theorem memberOutcome_eq_ok {depth : Nat} {m : WrittenMember} {entry : String × Value}
    (h : memberOutcome (value depth) m = .ok entry) :
    m.name = .ok entry.1 ∧ outcome (value depth) m.value.text = .ok entry.2 := by
  rw [memberOutcome] at h
  obtain ⟨key, hkey, h⟩ := bind_eq_ok_iff.mp h
  obtain ⟨v, hv, h⟩ := bind_eq_ok_iff.mp h
  obtain rfl := Except.ok.inj h
  exact ⟨hkey, hv⟩

theorem lastNamed_cons (name : String) (m : WrittenMember) (ms : List WrittenMember) :
    lastNamed name (m :: ms) =
      (lastNamed name ms).or (if m.name.toOption = some name then some m else none) := by
  rw [lastNamed, lastNamed, List.filter_cons]
  by_cases h : m.name.toOption = some name
  · rw [if_pos (beq_iff_eq.mpr h), if_pos h, List.getLast?_cons]
    cases (ms.filter fun m => m.name.toOption == some name).getLast? <;> rfl
  · rw [if_neg (mt beq_iff_eq.mp h), if_neg h, Option.or_none]

theorem lastNamed_mem {name : String} {m : WrittenMember} {ms : List WrittenMember}
    (h : lastNamed name ms = some m) : m ∈ ms ∧ m.name = .ok name := by
  obtain ⟨hmem, hname⟩ := List.mem_filter.mp (List.mem_of_getLast? h)
  refine ⟨hmem, ?_⟩
  cases hm : m.name with
  | error e => simp [hm, Except.toOption] at hname
  | ok key => simpa [hm, Except.toOption] using hname

/-- The last value of a key is that of the last member with that name. -/
theorem last?_eq_lastNamed {depth : Nat} {rs : List WrittenMember} {vs : List (String × Value)}
    (h : List.Forall₂ (fun m v => memberOutcome (value depth) m = .ok v) rs vs) (key : String) :
    KeyedList.last? key vs =
      (lastNamed key rs).bind fun m => (outcome (value depth) m.value.text).toOption := by
  induction h with
  | nil => rfl
  | @cons m entry rs vs hm hrest ih =>
      obtain ⟨hname, hvalue⟩ := memberOutcome_eq_ok hm
      obtain ⟨k, v⟩ := entry
      rw [KeyedList.last?, lastNamed_cons, ih, hname]
      cases hlast : lastNamed key rs with
      | none =>
          by_cases hk : k = key <;> simp [hk, hvalue, Except.toOption]
      | some n =>
          obtain ⟨hn, -⟩ := lastNamed_mem hlast
          obtain ⟨entry, -, hentry⟩ := exists_of_forall₂ hrest.flip hn
          simp [(memberOutcome_eq_ok hentry).2, Except.toOption]

/-- A coordinate keeps its text. -/
theorem coordinate_text {depth : Nat} {rs : List WrittenMember} {vs : List (String × Value)}
    (h : List.Forall₂ (fun m v => memberOutcome (value depth) m = .ok v) rs vs) {key : String}
    (hwhole : ∀ m ∈ rs, m.name = .ok key → IsWhole m.value.text) (default : Number) :
    ∃ n, Region.coordinate vs key default = .ok n ∧ n.text = coordinateText rs key default.text := by
  rw [Region.coordinate, last?_eq_lastNamed h key, coordinateText]
  cases hlast : lastNamed key rs with
  | none => exact ⟨default, rfl, rfl⟩
  | some m =>
      obtain ⟨hm, hname⟩ := lastNamed_mem hlast
      obtain ⟨z, hvalue, htext⟩ := (hwhole m hm hname).outcome_value depth
      refine ⟨.integer z, ?_, htext⟩
      rw [Option.bind_some, hvalue]
      rfl

/-- **Regions.** An object with integers for coordinates is the region of their texts. -/
theorem WholeRegion.outcome_decoder {depth : Nat} {rs : List WrittenMember} (h : WholeRegion depth rs)
    (gap : Blanks) : ∃ region, outcome (Region.decoder (depth + 1)) (objectText gap rs) = .ok region ∧
      region.map Region.text = regionText rs := by
  obtain ⟨vs, hvs, hall⟩ := exists_mapM h.readable
  have hvalue : outcome (anyValue (depth + 1)) (objectText gap rs) = .ok (.object vs) := by
    refine outcome_eq fun rest _ => ?_
    have hmembers (m : WrittenMember) (hm : m ∈ rs) :
        IsString m.key.text ∧ Stops (value depth) m.value.text :=
      ⟨(h.wellFormed m hm).1, value_stops (h.wellFormed m hm).2 depth⟩
    rw [anyValue, value_objectText hmembers, hvs]
    rfl
  have hcoordinate (key : String) (hkey : key ∈ ["x", "y", "x2", "y2"]) (default : Number) :=
    coordinate_text hall (fun m hm => h.whole m hm key hkey) default
  obtain ⟨x, hx, hxtext⟩ := hcoordinate "x" (by decide) (.integer 0)
  obtain ⟨y, hy, hytext⟩ := hcoordinate "y" (by decide) (.integer 0)
  obtain ⟨x2, hx2, hx2text⟩ := hcoordinate "x2" (by decide) (.integer 1)
  obtain ⟨y2, hy2, hy2text⟩ := hcoordinate "y2" (by decide) (.integer 1)
  rw [Region.decoder, outcome_via, hvalue, ok_bind, regionText]
  cases hall with
  | nil => exact ⟨none, rfl, rfl⟩
  | cons _ _ =>
      refine ⟨some { x, y, x2, y2 }, ?_, ?_⟩
      · simp only [Region.ofValue, hx, hy, hx2, hy2, ok_bind]
        rfl
      · rw [if_neg (List.cons_ne_nil _ _), Option.map_some, Region.text, hxtext, hytext, hx2text,
          hy2text]
        rfl

namespace Step

theorem region_not_required :
    ∀ f ∈ shape.fields, f.key = "region_of_interest" → f.required = false := by
  simp only [shape, List.forall_mem_cons]
  exact ⟨fun h => absurd h (by decide), fun _ => rfl, fun _ => rfl, fun _ => rfl, fun _ => rfl,
    fun _ => rfl, fun _ => rfl, List.forall_mem_nil _⟩

end Step

/-! ### Objects -/

/-- An object with a member of this key and value somewhere among others, and the object of those. -/
def Adds (key : String) (value : List Char) (others : List WrittenMember) (p q : Padded) : Prop :=
  ∃ gap gap' before m after, others = before ++ after ∧
    p.text = objectText gap (before ++ m :: after) ∧ q.text = objectText gap' others ∧
    (∀ n ∈ m :: others, n.WellFormed) ∧ m.name = .ok key ∧ m.value.text = value

/-- A member apart from the others. -/
theorem parse_adds {ρ α : Type} {shape : Shape ρ} (hlocal : ∀ f ∈ shape.fields, Local f.read)
    (hsep : shape.Separate) {key : String} {read : Decoder α} {set : α → ρ → ρ}
    (hfind : shape.fields.find? (·.key == key) = some (.optional key read set))
    (hoptional : ∀ f ∈ shape.fields, f.key = key → f.required = false) {t : List Char} {a : α}
    (hread : outcome (read (maxDepth - 1)) t = .ok a) {others : List WrittenMember} {p q : Padded}
    (h : Adds key t others p q) (r : ρ) :
    shape.parse p.string = .ok r ↔
      (∀ n ∈ others, n.name ≠ .ok key) ∧ ∃ r₀, shape.parse q.string = .ok r₀ ∧ set a r₀ = r := by
  obtain ⟨gap, gap', before, m, after, rfl, hp, hq, hwell, hname, rfl⟩ := h
  obtain ⟨hm, hothers⟩ := List.forall_mem_cons.mp hwell
  have hknows : shape.knows key = true := by rw [Shape.knows, hfind]; rfl
  have heffect : shape.effect (maxDepth - 1) m = .ok (key, set a) := by
    refine Shape.effect_eq hname hfind ?_
    rw [Field.outcome_optional, hread]
    rfl
  exact Shape.parse_insert hlocal hsep heffect hknows hoptional hm hothers hp hq r

/-- **Integers come back digit for digit.** A camera object in which a text is written as an integer
that 64 bits can hold is read exactly if the key is there once and the object without it is read, and
the text is then that of the integer. An object whose coordinates are such integers, the last of each
key counting, is read as a region with their texts and the defaults of those that are left out, and as
none if it has no members; cameras and steps get the region they are given. -/
theorem integers_echoed :
    (∀ f ∈ Camera.textFields, ∀ t, IsWhole t → ∀ others p q, Adds f.key t others p q →
      (∀ c, Camera.parse p.string = .ok c ↔ (∀ n ∈ others, n.name ≠ .ok f.key) ∧
        ∃ c₀, Camera.parse q.string = .ok c₀ ∧ f.set (some (String.ofList t)) c₀ = c) ∧
      ∀ c, Camera.parse p.string = .ok c → f.get c = some (String.ofList t)) ∧
    (∀ depth rs, WholeRegion depth rs → ∀ gap, ∃ region,
      outcome (Region.decoder (depth + 1)) (objectText gap rs) = .ok region ∧
        region.map Region.text = regionText rs) ∧
    ∀ rs, WholeRegion (maxDepth - 2) rs → ∀ gap, ∃ region, region.map Region.text = regionText rs ∧
      ∀ others p q, Adds "region_of_interest" (objectText gap rs) others p q →
        (∀ c, Camera.parse p.string = .ok c ↔ (∀ n ∈ others, n.name ≠ .ok "region_of_interest") ∧
          ∃ c₀, Camera.parse q.string = .ok c₀ ∧ { c₀ with region } = c) ∧
        ∀ s, Step.shape.parse p.string = .ok s ↔
          (∀ n ∈ others, n.name ≠ .ok "region_of_interest") ∧
            ∃ s₀, Step.shape.parse q.string = .ok s₀ ∧ { s₀ with region } = s := by
  refine ⟨fun f hf t ht others p q h => ?_, fun depth rs h gap => h.outcome_decoder gap,
    fun rs hrs gap => ?_⟩
  · have hparse (c : Camera) := parse_adds Camera.shape_local Camera.shape_separate
      (Camera.find?_textField f hf) (fun g hg _ => Camera.not_required g hg)
      (Camera.outcome_scalar ht _) h c
    refine ⟨hparse, fun c hc => ?_⟩
    obtain ⟨-, c₀, -, rfl⟩ := (hparse c).mp hc
    exact Camera.get_set f hf _ c₀
  · obtain ⟨region, hread, htext⟩ := hrs.outcome_decoder gap
    refine ⟨region, htext, fun others p q h => ⟨fun c => ?_, fun s => ?_⟩⟩
    · exact parse_adds Camera.shape_local Camera.shape_separate rfl
        (fun g hg _ => Camera.not_required g hg) hread h c
    · exact parse_adds Step.shape_local Step.shape_separate rfl Step.region_not_required hread
        h s

/-- The greatest integer for an id, and the least and the greatest for one coordinate. -/
theorem integers_echoed_limits :
    let member (key : String) (value : List Char) : WrittenMember :=
      ⟨.bare (stringChars key), .bare value⟩
    let greatest := "18446744073709551615".toList
    let rs := [member "x2" "1920".toList, member "x" "-9223372036854775808".toList,
      member "note" (stringChars "left"), member "x" greatest]
    let id := member "camera_id" greatest
    let roi := member "region_of_interest" (objectText .none rs)
    let p := Padded.bare (objectText .none [id, roi])
    ∃ c, Camera.parse p.string = .ok c ∧ c.cameraId = some "18446744073709551615" ∧
      c.region.map Region.text = some "18446744073709551615,0,1920,1" := by
  intro member greatest rs id roi p
  have hgreatest : IsWhole greatest :=
    ⟨greatest, by decide, .inl ⟨rfl, by decide +kernel⟩⟩
  have hleast : IsWhole "-9223372036854775808".toList :=
    ⟨"9223372036854775808".toList, by decide,
      .inr ⟨rfl, by decide +kernel, by decide +kernel⟩⟩
  have hedge : IsWhole "1920".toList :=
    ⟨"1920".toList, by decide, .inl ⟨rfl, by decide +kernel⟩⟩
  have hname (key : String) (value : List Char) : (member key value).name = .ok key :=
    WrittenMember.name_eq rfl
  have hnote : IsValue (stringChars "left") := .string (isString_stringChars "left")
  have hreadable : ∀ m ∈ rs, (memberOutcome (value (maxDepth - 2)) m).isOk := by
    decide +kernel
  have hrs : WholeRegion (maxDepth - 2) rs := by
    refine ⟨?_, fun m hm => isOk_iff.mp (hreadable m hm), fun m hm key hkey h => ?_⟩
    · simp only [rs, List.forall_mem_cons]
      exact ⟨wellFormed_bare _ hedge.isValue, wellFormed_bare _ hleast.isValue,
        wellFormed_bare _ hnote, wellFormed_bare _ hgreatest.isValue, List.forall_mem_nil _⟩
    · simp only [rs, List.mem_cons, List.not_mem_nil, or_false] at hm
      rcases hm with rfl | rfl | rfl | rfl
      · exact hedge
      · exact hleast
      · -- The note is no coordinate.
        obtain rfl := Except.ok.inj ((hname "note" _).symm.trans h)
        exact absurd hkey (by decide)
      · exact hgreatest
  have hroi : roi.WellFormed := wellFormed_bare _ (isValue_objectText .none hrs.wellFormed)
  have hid : id.WellFormed := wellFormed_bare _ hgreatest.isValue
  obtain ⟨hscalar, -, hregion⟩ := integers_echoed
  obtain ⟨region, htext, hregion⟩ := hregion rs hrs .none
  obtain ⟨c, hc⟩ : ∃ c, Camera.parse p.string = .ok c :=
    isOk_iff.mp (by decide +kernel)
  refine ⟨c, hc, ?_, ?_⟩
  · refine (hscalar ⟨"camera_id", _, _⟩ List.mem_cons_self greatest hgreatest [roi] p
      (.bare (objectText .none [roi])) ?_).2 c hc
    exact ⟨.none, .none, [], id, [roi], rfl, rfl, rfl, by simp [hid, hroi], hname _ _, rfl⟩
  · obtain ⟨-, c₀, -, rfl⟩ := ((hregion [id] p (.bare (objectText .none [id]))
      ⟨.none, .none, [id], roi, [], rfl, rfl, rfl, by simp [hid, hroi], hname _ _, rfl⟩).1 c).mp hc
    rw [htext]
    decide +kernel

end CameraGraph
