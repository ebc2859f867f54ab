import CameraGraph.Proofs.Json.Members

/-!
# CameraGraph.Proofs.Json.Order

The order of the members of an object.

The fields of a shape are `Separate` if any two of them change a record in ways that commute. Then the
members of an object may stand in any order (`recordOf_perm`), and a member may be looked at apart from
all the others (`recordOf_insert`). Which error is reported does depend on the order, so all of this is
about records that come out.
-/

namespace CameraGraph.Json

variable {ε α β ρ : Type}

/-! ### Fields that do not interfere -/

/-- Two fields whose changes commute. -/
def Field.Commutes (f g : Field ρ) : Prop :=
  ∀ depth t u c d, outcome (f.read depth) t = .ok c → outcome (g.read depth) u = .ok d →
    ∀ r, c (d r) = d (c r)

theorem Field.Commutes.symm {f g : Field ρ} (h : f.Commutes g) : g.Commutes f :=
  fun depth t u c d hc hd r => (h depth u t d c hd hc r).symm

instance : Std.Symm (@Field.Commutes ρ) := ⟨fun _ _ => Field.Commutes.symm⟩

theorem Field.outcome_optional (key : String) (read : Decoder α) (set : α → ρ → ρ) (depth : Nat)
    (t : List Char) :
    outcome ((Field.optional key read set).read depth) t = (outcome (read depth) t).map set := by
  show outcome (via read (fun a => .ok (set a)) depth) t = _
  rw [outcome_via]
  cases outcome (read depth) t <;> rfl

/-- Fields that are stored in different places. -/
theorem Field.optional_commutes (key key' : String) {read : Decoder α} {read' : Decoder β}
    {set : α → ρ → ρ} {set' : β → ρ → ρ} (h : ∀ a b r, set a (set' b r) = set' b (set a r)) :
    (Field.optional key read set).Commutes (Field.optional key' read' set') := by
  intro depth t u c d hc hd r
  rw [outcome_optional] at hc hd
  cases ha : outcome (read depth) t with
  | error e => simp [ha, Except.map] at hc
  | ok a =>
      cases hb : outcome (read' depth) u with
      | error e => simp [hb, Except.map] at hd
      | ok b =>
          obtain rfl : set a = c := by simpa [ha, Except.map] using hc
          obtain rfl : set' b = d := by simpa [hb, Except.map] using hd
          exact h a b r

theorem Field.needed_commutes (key key' : String) {read : Decoder α} {read' : Decoder β}
    {set : α → ρ → ρ} {set' : β → ρ → ρ} (h : ∀ a b r, set a (set' b r) = set' b (set a r)) :
    (Field.needed key read set).Commutes (Field.optional key' read' set') :=
  Field.optional_commutes key key' h

theorem exists_of_forall₂ {R : α → β → Prop} {as : List α} {bs : List β} (h : List.Forall₂ R as bs)
    {b : β} (hb : b ∈ bs) : ∃ a ∈ as, R a b := by
  induction h with
  | nil => cases hb
  | cons hab _ ih =>
      rcases List.mem_cons.mp hb with rfl | hb
      · exact ⟨_, List.mem_cons_self, hab⟩
      · obtain ⟨a, ha, hab⟩ := ih hb
        exact ⟨a, List.mem_cons_of_mem _ ha, hab⟩

namespace Shape

variable {shape : Shape ρ} {depth : Nat}

/-- The changes of any two fields commute. -/
def Separate (shape : Shape ρ) : Prop := shape.fields.Pairwise Field.Commutes

/-- A member that can be read has a key, and does nothing or what the field of that key does. -/
theorem effect_cases {m : WrittenMember} {e : String × (ρ → ρ)} (h : shape.effect depth m = .ok e) :
    m.name = .ok e.1 ∧ (shape.knows e.1 = false ∧ e.2 = id ∨
      ∃ f ∈ shape.fields, f.key = e.1 ∧ outcome (f.read depth) m.value.text = .ok e.2) := by
  rw [effect] at h
  cases hname : m.name with
  | error err =>
      rw [hname] at h
      cases h
  | ok key =>
      rw [hname, ok_bind] at h
      cases hfind : shape.fields.find? (·.key == key) with
      | none =>
          rw [hfind] at h
          obtain rfl := Except.ok.inj h
          exact ⟨rfl, .inl ⟨by rw [knows, hfind]; rfl, rfl⟩⟩
      | some f =>
          rw [hfind] at h
          cases hread : outcome (f.read depth) m.value.text with
          | error err =>
              simp only [hread] at h
              cases h
          | ok change =>
              simp only [hread] at h
              obtain rfl := Except.ok.inj h
              have hkey : f.key = key := by simpa using List.find?_some hfind
              exact ⟨rfl, .inr ⟨f, List.mem_of_find?_eq_some hfind, hkey, hread⟩⟩

theorem effect_eq {m : WrittenMember} {key : String} (hname : m.name = .ok key) {f : Field ρ}
    (hfind : shape.fields.find? (·.key == key) = some f) {change : ρ → ρ}
    (hread : outcome (f.read depth) m.value.text = .ok change) :
    shape.effect depth m = .ok (key, change) := by
  rw [effect, hname, ok_bind, hfind]
  simp only [hread]
  rfl

theorem knows_of_mem {f : Field ρ} (h : f ∈ shape.fields) : shape.knows f.key = true :=
  List.find?_isSome.mpr ⟨f, h, beq_self_eq_true f.key⟩

/-- Two members commute unless they have the same known key. -/
theorem Separate.effects_commute (hsep : shape.Separate) {m n : WrittenMember}
    {e e' : String × (ρ → ρ)} (he : shape.effect depth m = .ok e)
    (he' : shape.effect depth n = .ok e') (hne : shape.knows e.1 = true → e.1 ≠ e'.1) (r : ρ) :
    e.2 (e'.2 r) = e'.2 (e.2 r) := by
  obtain ⟨-, ⟨-, hid⟩ | ⟨f, hf, hkey, hread⟩⟩ := effect_cases he
  · rw [hid]
    rfl
  obtain ⟨-, ⟨-, hid⟩ | ⟨g, hg, hkey', hread'⟩⟩ := effect_cases he'
  · rw [hid]
    rfl
  have hfg : f ≠ g := by
    rintro rfl
    exact hne (hkey ▸ knows_of_mem hf) (hkey.symm.trans hkey')
  exact hsep.forall hf hg hfg depth m.value.text n.value.text e.2 e'.2 hread hread' r

/-- Of some members, no two have the same known key. -/
theorem eq_of_knownKeys_nodup {es : List (String × (ρ → ρ))} (h : (shape.knownKeys es).Nodup)
    {e e' : String × (ρ → ρ)} (he : e ∈ es) (he' : e' ∈ es) (hknows : shape.knows e.1 = true)
    (heq : e.1 = e'.1) : e = e' :=
  List.inj_on_of_nodup_map h (List.mem_filter.mpr ⟨he, hknows⟩)
    (List.mem_filter.mpr ⟨he', heq ▸ hknows⟩) heq

/-- What members do together does not depend on their order. -/
theorem Separate.foldl_perm (hsep : shape.Separate) {ms : List WrittenMember}
    {es fs : List (String × (ρ → ρ))}
    (hes : List.Forall₂ (fun m e => shape.effect depth m = .ok e) ms es)
    (hnodup : (shape.knownKeys es).Nodup) (h : es.Perm fs) (r : ρ) :
    es.foldl (fun r e => e.2 r) r = fs.foldl (fun r e => e.2 r) r := by
  refine h.foldl_eq' (fun e he e' he' r => ?_) r
  obtain ⟨m, -, hm⟩ := exists_of_forall₂ hes he
  obtain ⟨n, -, hn⟩ := exists_of_forall₂ hes he'
  by_cases hsame : shape.knows e.1 = true ∧ e.1 = e'.1
  · rw [eq_of_knownKeys_nodup hnodup he he' hsame.1 hsame.2]
  · exact (hsep.effects_commute hm hn (fun hknows heq => hsame ⟨hknows, heq⟩) r).symm

/-- **Order.** The members of an object may stand in any order. -/
theorem recordOf_perm (hsep : shape.Separate) {ms ns : List WrittenMember} (h : ms.Perm ns) {r : ρ}
    (hr : shape.recordOf depth ms = .ok r) : shape.recordOf depth ns = .ok r := by
  obtain ⟨es, hes, hnodup, hrequired, rfl⟩ := (recordOf_eq_ok ..).mp hr
  obtain ⟨fs, hfs, hperm⟩ := List.perm_comp_forall₂ h.symm hes
  refine (recordOf_eq_ok ..).mpr ⟨fs, hfs, ?_, ?_, (hsep.foldl_perm hes hnodup hperm.symm _).symm⟩
  · exact ((hperm.filter _).map _).nodup_iff.mpr hnodup
  · exact fun f hf hreq => (hperm.map Prod.fst).mem_iff.mpr (hrequired f hf hreq)

theorem recordOf_perm_iff (hsep : shape.Separate) {ms ns : List WrittenMember} (h : ms.Perm ns)
    (r : ρ) : shape.recordOf depth ms = .ok r ↔ shape.recordOf depth ns = .ok r :=
  ⟨recordOf_perm hsep h, recordOf_perm hsep h.symm⟩

/-- **One member.** A member with the key of an optional field may be looked at apart from the others:
its key has to be theirs nowhere, and what it does may be done last. -/
theorem recordOf_insert (hsep : shape.Separate) {m : WrittenMember} {e : String × (ρ → ρ)}
    (he : shape.effect depth m = .ok e) (hknows : shape.knows e.1 = true)
    (hoptional : ∀ f ∈ shape.fields, f.key = e.1 → f.required = false)
    (before after : List WrittenMember) (r : ρ) :
    shape.recordOf depth (before ++ m :: after) = .ok r ↔
      (∀ n ∈ before ++ after, n.name ≠ .ok e.1) ∧
        ∃ r₀, shape.recordOf depth (before ++ after) = .ok r₀ ∧ e.2 r₀ = r := by
  rw [recordOf_perm_iff hsep List.perm_middle, recordOf_eq_ok]
  generalize before ++ after = ms
  have hkeys (es : List (String × (ρ → ρ))) :
      shape.knownKeys (e :: es) = e.1 :: shape.knownKeys es := by
    rw [knownKeys_cons, if_pos hknows]
  have hlast {es : List (String × (ρ → ρ))}
      (hes : List.Forall₂ (fun m e => shape.effect depth m = .ok e) ms es)
      (hnodup : (shape.knownKeys (e :: es)).Nodup) :
      (e :: es).foldl (fun r e => e.2 r) shape.empty =
        e.2 (es.foldl (fun r e => e.2 r) shape.empty) := by
    rw [hsep.foldl_perm (.cons he hes) hnodup (List.perm_append_singleton e es).symm,
      List.foldl_append]
    rfl
  constructor
  · rintro ⟨_, hall, hnodup, hrequired, hr⟩
    obtain ⟨e', es, he', hes, rfl⟩ := List.forall₂_cons_left_iff.mp hall
    obtain rfl := Except.ok.inj (he.symm.trans he')
    rw [hlast hes hnodup] at hr
    rw [hkeys, List.nodup_cons] at hnodup
    refine ⟨fun n hn hname => ?_, _, (recordOf_eq_ok ..).mpr ⟨es, hes, hnodup.2, ?_, rfl⟩, hr⟩
    · obtain ⟨e', hmem, hn⟩ := exists_of_forall₂ hes.flip hn
      have hkey : e.1 = e'.1 := Except.ok.inj (hname.symm.trans (effect_cases hn).1)
      refine hnodup.1 (List.mem_map.mpr ⟨e', List.mem_filter.mpr ⟨hmem, ?_⟩, hkey.symm⟩)
      rw [← hkey]
      exact hknows
    · intro f hf hreq
      refine (List.mem_cons.mp (hrequired f hf hreq)).resolve_left fun hkey => ?_
      rw [hoptional f hf hkey] at hreq
      cases hreq
  · rintro ⟨hnew, r₀, hr₀, rfl⟩
    obtain ⟨es, hes, hnodup, hrequired, rfl⟩ := (recordOf_eq_ok ..).mp hr₀
    have hnodup : (shape.knownKeys (e :: es)).Nodup := by
      rw [hkeys, List.nodup_cons]
      refine ⟨fun hmem => ?_, hnodup⟩
      obtain ⟨e', he', hkey⟩ := List.mem_map.mp hmem
      obtain ⟨n, hn, hread⟩ := exists_of_forall₂ hes (List.mem_filter.mp he').1
      exact hnew n hn (hkey ▸ (effect_cases hread).1)
    exact ⟨e :: es, .cons he hes, hnodup, fun f hf hreq => List.mem_cons_of_mem _
      (hrequired f hf hreq), hlast hes hnodup⟩

/-- **One member of a document.** -/
theorem parse_insert (hlocal : ∀ f ∈ shape.fields, Local f.read) (hsep : shape.Separate)
    {m : WrittenMember} {e : String × (ρ → ρ)} (he : shape.effect (maxDepth - 1) m = .ok e)
    (hknows : shape.knows e.1 = true)
    (hoptional : ∀ f ∈ shape.fields, f.key = e.1 → f.required = false) (hm : m.WellFormed)
    {before after : List WrittenMember} (hothers : ∀ n ∈ before ++ after, n.WellFormed)
    {p q : Padded} {gap gap' : Blanks} (hp : p.text = objectText gap (before ++ m :: after))
    (hq : q.text = objectText gap' (before ++ after)) (r : ρ) :
    shape.parse p.string = .ok r ↔
      (∀ n ∈ before ++ after, n.name ≠ .ok e.1) ∧
        ∃ r₀, shape.parse q.string = .ok r₀ ∧ e.2 r₀ = r := by
  have hall : ∀ n ∈ before ++ m :: after, n.WellFormed := by
    intro n hn
    rcases List.mem_cons.mp (List.perm_middle.mem_iff.mp hn) with rfl | hn
    · exact hm
    · exact hothers n hn
  have hread (p : Padded) {ms : List WrittenMember} {gap : Blanks} (hp : p.text = objectText gap ms)
      (hms : ∀ n ∈ ms, n.WellFormed) : shape.parse p.string = shape.recordOf (maxDepth - 1) ms := by
    have hvalue : IsValue p.text := hp ▸ isValue_objectText gap hms
    rw [parse, whole_padded (decoder_local hlocal) maxDepth hvalue, hp]
    exact decoder_objectText hlocal (maxDepth - 1) hms gap
  rw [hread p hp hall, hread q hq hothers]
  exact recordOf_insert hsep he hknows hoptional before after r

end Shape

/-! ### Reordered objects -/

/-- Values written differently. -/
abbrev Rewriting := List Char → List Char → Prop

/-- Objects with the same members in any order. -/
def Reordered : Rewriting := fun t u =>
  ∃ gap gap' ms ns, t = objectText gap ms ∧ u = objectText gap' ns ∧ ms.Perm ns ∧
    ∀ m ∈ ms, m.WellFormed

/-- Lists whose items are written differently. -/
def InItems (R : Rewriting) : Rewriting := fun t u =>
  ∃ gap gap' ps qs, t = listText gap ps ∧ u = listText gap' qs ∧
    List.Forall₂ (fun p q => IsValue p.text ∧ IsValue q.text ∧ R p.text q.text) ps qs

/-- Objects whose values are written differently, under the same keys. -/
def InMembers (R : String → Rewriting) : Rewriting := fun t u =>
  ∃ gap gap' ms ns, t = objectText gap ms ∧ u = objectText gap' ns ∧
    List.Forall₂ (fun m n => m.WellFormed ∧ n.WellFormed ∧ m.key.text = n.key.text ∧
      ∀ name, m.name = .ok name → R name m.value.text n.value.text) ms ns

/-- The same value, or an object with the same members in any order. -/
def MaybeReordered : Rewriting := fun t u => t = u ∨ Reordered t u

/-- Values that are written differently under one key, and alike under any other. -/
def Under (key : String) (R : Rewriting) : String → Rewriting := fun name t u =>
  if name = key then R t u else t = u

/-- Two outcomes with the same success, though perhaps not the same error. -/
def SameSuccess (x y : Except ε α) : Prop := ∀ a, x = .ok a ↔ y = .ok a

/-- A decoder that makes the same of values written differently. -/
def Indifferent (read : Decoder α) (R : Rewriting) : Prop :=
  ∀ depth t u, IsValue t → IsValue u → R t u →
    SameSuccess (outcome (read depth) t) (outcome (read depth) u)

theorem SameSuccess.refl (x : Except ε α) : SameSuccess x x := fun _ => Iff.rfl

theorem SameSuccess.toOption_eq {x y : Except ε α} (h : SameSuccess x y) :
    x.toOption = y.toOption := by
  cases x with
  | ok a => rw [(h a).mp rfl]
  | error e =>
      cases y with
      | ok a => exact absurd ((h a).mpr rfl) nofun
      | error e' => rfl

theorem SameSuccess.bind {x y : Except ε α} (h : SameSuccess x y) {f g : α → Except ε β}
    (hfg : ∀ a, x = .ok a → SameSuccess (f a) (g a)) : SameSuccess (x >>= f) (y >>= g) := by
  cases x with
  | ok a =>
      rw [(h a).mp rfl]
      exact hfg a rfl
  | error e =>
      cases y with
      | ok a => exact absurd ((h a).mpr rfl) nofun
      | error e' => exact fun b => iff_of_false nofun nofun

theorem SameSuccess.map {x y : Except ε α} (h : SameSuccess x y) (f : α → β) :
    SameSuccess (x.map f) (y.map f) :=
  h.bind fun a _ => SameSuccess.refl (.ok (f a))

theorem SameSuccess.mapM {γ : Type} {f : α → Except ε γ} {g : β → Except ε γ} {as : List α}
    {bs : List β} (h : List.Forall₂ (fun a b => SameSuccess (f a) (g b)) as bs) :
    SameSuccess (as.mapM f) (bs.mapM g) := by
  induction h with
  | nil => exact SameSuccess.refl _
  | cons hab _ ih =>
      rw [List.mapM_cons, List.mapM_cons]
      exact hab.bind fun _ _ => ih.bind fun _ _ => SameSuccess.refl _

/-- What holds of both sides of related lists, beside the relation. -/
theorem forall_of_forall₂ {P : α → Prop} {Q : β → Prop} {R : α → β → Prop} {as : List α}
    {bs : List β} (h : List.Forall₂ (fun a b => P a ∧ Q b ∧ R a b) as bs) :
    (∀ a ∈ as, P a) ∧ ∀ b ∈ bs, Q b := by
  refine ⟨fun a ha => ?_, fun b hb => ?_⟩
  · obtain ⟨b, -, hP, -⟩ := exists_of_forall₂ h.flip ha
    exact hP
  · obtain ⟨a, -, -, hQ, -⟩ := exists_of_forall₂ h hb
    exact hQ

theorem Reordered.isValue {t u : List Char} (h : Reordered t u) : IsValue t ∧ IsValue u := by
  obtain ⟨gap, gap', ms, ns, rfl, rfl, hperm, hms⟩ := h
  have hns : ∀ n ∈ ns, n.WellFormed := fun n hn => hms n (hperm.mem_iff.mpr hn)
  exact ⟨isValue_objectText gap hms, isValue_objectText gap' hns⟩

theorem InMembers.isValue {R : String → Rewriting} {t u : List Char} (h : InMembers R t u) :
    IsValue t ∧ IsValue u := by
  obtain ⟨gap, gap', ms, ns, rfl, rfl, hmn⟩ := h
  obtain ⟨hms, hns⟩ := forall_of_forall₂ hmn
  exact ⟨isValue_objectText gap hms, isValue_objectText gap' hns⟩

theorem InItems.isValue {R : Rewriting} {t u : List Char} (h : InItems R t u) :
    IsValue t ∧ IsValue u := by
  obtain ⟨gap, gap', ps, qs, rfl, rfl, hpq⟩ := h
  obtain ⟨hps, hqs⟩ := forall_of_forall₂ hpq
  exact ⟨.list gap ps hps, .list gap' qs hqs⟩

/-- Documents that are written differently. -/
theorem Indifferent.whole {read : Decoder α} {R : Rewriting} (h : Indifferent read R)
    (hlocal : Local read) (depth : Nat) {p q : Padded} (hvalues : IsValue p.text ∧ IsValue q.text)
    (hR : R p.text q.text) :
    SameSuccess (Json.whole (read depth) p.string) (Json.whole (read depth) q.string) := by
  rw [whole_padded hlocal depth hvalues.1, whole_padded hlocal depth hvalues.2]
  exact h depth p.text q.text hvalues.1 hvalues.2 hR

theorem Indifferent.maybe {read : Decoder α} (h : Indifferent read Reordered) :
    Indifferent read MaybeReordered := by
  rintro depth t u ht hu (rfl | hR)
  · exact SameSuccess.refl _
  · exact h depth t u ht hu hR

theorem WrittenMember.name_congr {m n : WrittenMember} (h : m.key.text = n.key.text) :
    m.name = n.name := by
  rw [name, name, h]

/-- The one member of an object, written differently. -/
theorem InMembers.under (key : String) {R : Rewriting} {t u : List Char} (h : R t u)
    (hvalues : IsValue t ∧ IsValue u) :
    InMembers (Under key R) (objectText .none [⟨.bare (stringChars key), .bare t⟩])
      (objectText .none [⟨.bare (stringChars key), .bare u⟩]) := by
  refine ⟨.none, .none, _, _, rfl, rfl, .cons ⟨wellFormed_bare key hvalues.1,
    wellFormed_bare key hvalues.2, rfl, fun name hname => ?_⟩ .nil⟩
  obtain rfl := Except.ok.inj ((WrittenMember.name_eq rfl).symm.trans hname)
  exact (if_pos rfl).mpr h

theorem listOf_indifferent {item : Decoder α} (hlocal : Local item) {R : Rewriting}
    (h : Indifferent item R) : Indifferent (listOf item) (InItems R) := by
  rintro depth _ _ - - ⟨gap, gap', ps, qs, rfl, rfl, hpq⟩
  cases depth with
  | zero => exact SameSuccess.refl (.error (Error.malformed .depth))
  | succ d =>
      obtain ⟨hps, hqs⟩ := forall_of_forall₂ hpq
      rw [outcome_eq fun rest _ => listOf_listText hlocal d hps gap rest,
        outcome_eq fun rest _ => listOf_listText hlocal d hqs gap' rest]
      exact SameSuccess.mapM (hpq.imp fun p q ⟨hp, hq, hR⟩ => h d p.text q.text hp hq hR)

theorem mapOf_indifferent {read : Decoder α} (hlocal : Local read) {R : String → Rewriting}
    (h : ∀ name, Indifferent read (R name)) : Indifferent (mapOf read) (InMembers R) := by
  rintro depth _ _ - - ⟨gap, gap', ms, ns, rfl, rfl, hmn⟩
  cases depth with
  | zero => exact SameSuccess.refl (.error (Error.malformed .depth))
  | succ d =>
      obtain ⟨hms, hns⟩ := forall_of_forall₂ hmn
      rw [outcome_eq fun rest _ => mapOf_objectText hlocal d hms gap rest,
        outcome_eq fun rest _ => mapOf_objectText hlocal d hns gap' rest]
      refine SameSuccess.mapM (hmn.imp fun m n ⟨hm, hn, hkey, hR⟩ => ?_)
      rw [memberOutcome, memberOutcome, ← WrittenMember.name_congr hkey]
      refine (SameSuccess.refl m.name).bind fun name hname => ?_
      refine (h name d m.value.text n.value.text hm.2 hn.2 (hR name hname)).bind fun _ _ => ?_
      exact SameSuccess.refl _

theorem Field.needed_indifferent {read : Decoder α} {R : Rewriting} (h : Indifferent read R)
    (key : String) (set : α → ρ → ρ) : Indifferent (Field.needed key read set).read R := by
  intro depth t u ht hu hR
  rw [Field.needed, outcome_optional, outcome_optional]
  exact (h depth t u ht hu hR).map set

namespace Shape

variable {shape : Shape ρ}

theorem recordOf_sameSuccess {depth : Nat} {ms ns : List WrittenMember}
    (h : List.Forall₂ (fun m n => SameSuccess (shape.effect depth m) (shape.effect depth n)) ms ns) :
    SameSuccess (shape.recordOf depth ms) (shape.recordOf depth ns) := by
  have hread (seen : List String) (record : ρ) :
      SameSuccess (shape.readMembers depth seen record ms)
        (shape.readMembers depth seen record ns) := by
    induction h generalizing seen record with
    | nil => exact SameSuccess.refl _
    | cons hmn _ ih =>
        intro p
        rw [readMembers_cons, readMembers_cons]
        exact exists_congr fun e => and_congr (hmn e) (and_congr_right fun _ => ih _ _ p)
  exact (hread [] shape.empty).bind fun _ _ => SameSuccess.refl _

/-- A record of fields that make the same of the values written differently. -/
theorem decoder_indifferent (hlocal : ∀ f ∈ shape.fields, Local f.read) {R : String → Rewriting}
    (h : ∀ f ∈ shape.fields, Indifferent f.read (R f.key)) :
    Indifferent shape.decoder (InMembers R) := by
  rintro depth _ _ - - ⟨gap, gap', ms, ns, rfl, rfl, hmn⟩
  cases depth with
  | zero => exact SameSuccess.refl (.error (Error.malformed .depth))
  | succ d =>
      obtain ⟨hms, hns⟩ := forall_of_forall₂ hmn
      rw [decoder_objectText hlocal d hms, decoder_objectText hlocal d hns]
      refine recordOf_sameSuccess (hmn.imp fun m n ⟨hm, hn, hkey, hR⟩ => ?_)
      rw [effect, effect, ← WrittenMember.name_congr hkey]
      refine (SameSuccess.refl m.name).bind fun name hname => ?_
      cases hfind : shape.fields.find? (·.key == name) with
      | none => exact SameSuccess.refl _
      | some f =>
          have hf := List.mem_of_find?_eq_some hfind
          obtain rfl : f.key = name := by simpa using List.find?_some hfind
          refine (h f hf d m.value.text n.value.text hm.2 hn.2 (hR _ hname)).bind fun _ _ => ?_
          exact SameSuccess.refl _

/-- A record whose members stand in another order. -/
theorem decoder_indifferent_reordered (hlocal : ∀ f ∈ shape.fields, Local f.read)
    (hsep : shape.Separate) : Indifferent shape.decoder Reordered := by
  rintro depth _ _ - - ⟨gap, gap', ms, ns, rfl, rfl, hperm, hms⟩
  cases depth with
  | zero => exact SameSuccess.refl (.error (Error.malformed .depth))
  | succ d =>
      rw [decoder_objectText hlocal d hms,
        decoder_objectText hlocal d fun n hn => hms n (hperm.mem_iff.mpr hn)]
      exact recordOf_perm_iff hsep hperm

end Shape

end CameraGraph.Json
