/-!
# CameraGraph.KeyedList

Lists of pairs read as maps.

A list of pairs in the order they were written is a map in which the last pair of a key counts.
Sorting it by key, bytewise in UTF-8, gives the map its canonical form: `KeyedList.sorted` keeps the
last pair of every key and nothing else.
-/

namespace CameraGraph.KeyedList

variable {α : Type}

/-- The value of the last pair of a key. -/
def last? (key : String) : List (String × α) → Option α
  | [] => none
  | (k, v) :: r => (last? key r).or (if k = key then some v else none)

/-- The value of the first pair of a key. -/
def first? (key : String) (pairs : List (String × α)) : Option α :=
  (pairs.find? (·.1 == key)).map (·.2)

/-- Puts a pair into a list sorted by key, before the first greater key. -/
def insert (key : String) (v : α) : List (String × α) → List (String × α)
  | [] => [(key, v)]
  | (k, w) :: r => if key < k then (key, v) :: (k, w) :: r else (k, w) :: insert key v r

/-- The pairs sorted by key, the last of equal keys kept. -/
def sorted : List (String × α) → List (String × α)
  | [] => []
  | (k, v) :: r =>
    let rest := sorted r
    if rest.any (·.1 == k) then rest else insert k v rest

/-- A pair whose key is less than all others goes to the front. -/
theorem insert_of_lt {key : String} (v : α) {pairs : List (String × α)}
    (h : ∀ p ∈ pairs, key < p.1) : insert key v pairs = (key, v) :: pairs := by
  cases pairs with
  | nil => rfl
  | cons p r =>
      have hlt : key < p.1 := h p List.mem_cons_self
      rw [insert, if_pos hlt]

/-- Pairs under growing keys are sorted already. -/
theorem sorted_of_pairwise {pairs : List (String × α)}
    (h : (pairs.map (·.1)).Pairwise (· < ·)) : sorted pairs = pairs := by
  induction pairs with
  | nil => rfl
  | cons p r ih =>
      obtain ⟨hless, hrest⟩ := List.pairwise_cons.mp h
      have hlt : ∀ q ∈ r, p.1 < q.1 := fun q hq => hless q.1 (List.mem_map_of_mem hq)
      have hnone : r.any (·.1 == p.1) = false := by
        refine List.any_eq_false.mpr fun q hq heq => ?_
        have hself : p.1 < p.1 := by simpa only [eq_of_beq heq] using hlt q hq
        exact String.lt_irrefl _ hself
      rw [sorted, ih hrest, hnone]
      exact insert_of_lt p.2 hlt

/-! ### Last pairs -/

theorem last?_append (key : String) (before after : List (String × α)) :
    last? key (before ++ after) = (last? key after).or (last? key before) := by
  induction before with
  | nil => simp [last?]
  | cons p r ih => rw [List.cons_append, last?, last?, ih, Option.or_assoc]

theorem last?_eq_none_iff {key : String} {pairs : List (String × α)} :
    last? key pairs = none ↔ ∀ p ∈ pairs, p.1 ≠ key := by
  induction pairs with
  | nil => simp [last?]
  | cons p r ih =>
      rw [last?, Option.or_eq_none_iff, ih, List.forall_mem_cons]
      by_cases h : p.1 = key <;> simp [h]

/-- The pair that counts for a key has no pair of the key behind it. -/
theorem last?_eq_some_iff {key : String} {v : α} {pairs : List (String × α)} :
    last? key pairs = some v ↔
      ∃ before after, pairs = before ++ (key, v) :: after ∧ ∀ p ∈ after, p.1 ≠ key := by
  constructor
  · intro h
    induction pairs with
    | nil => simp [last?] at h
    | cons p r ih =>
        rw [last?, Option.or_eq_some_iff] at h
        rcases h with hr | ⟨hr, hp⟩
        · obtain ⟨before, after, rfl, hafter⟩ := ih hr
          exact ⟨p :: before, after, rfl, hafter⟩
        · split at hp
          · rename_i hkey
            have hpair : p = (key, v) := Prod.ext hkey (Option.some.inj hp)
            exact ⟨[], r, by rw [hpair, List.nil_append], last?_eq_none_iff.mp hr⟩
          · cases hp
  · rintro ⟨before, after, rfl, hafter⟩
    rw [last?_append, last?, last?_eq_none_iff.mpr hafter]
    simp

/-- Pairs that some of the members of a list contribute, each under a key of its own. -/
theorem last?_filterMap {β : Type} {key : β → String} {f : β → Option α} {bs : List β}
    (h : (bs.map key).Nodup) {b : β} (hb : b ∈ bs) :
    last? (key b) (bs.filterMap fun b => (f b).map (key b, ·)) = f b := by
  induction bs with
  | nil => cases hb
  | cons a r ih =>
      rw [List.map_cons, List.nodup_cons] at h
      obtain ⟨hnot, hr⟩ := h
      have hcons : (a :: r).filterMap (fun b => (f b).map (key b, ·)) =
          ((f a).map (key a, ·)).toList ++ r.filterMap fun b => (f b).map (key b, ·) := by
        cases hf : f a <;> simp [hf]
      rw [hcons, last?_append]
      rcases List.mem_cons.mp hb with rfl | hb
      · have hnone : last? (key b) (r.filterMap fun b => (f b).map (key b, ·)) = none := by
          refine last?_eq_none_iff.mpr fun p hp hkey => ?_
          obtain ⟨c, hc, hpair⟩ := List.mem_filterMap.mp hp
          obtain ⟨v, -, rfl⟩ := Option.map_eq_some_iff.mp hpair
          exact hnot (hkey ▸ List.mem_map_of_mem hc)
        rw [hnone, Option.none_or]
        cases f b <;> simp [last?]
      · have hne : key a ≠ key b := fun hkey => hnot (hkey ▸ List.mem_map_of_mem hb)
        have hnone : last? (key b) ((f a).map (key a, ·)).toList = none := by
          cases f a <;> simp [last?, hne]
        rw [ih hr hb, hnone, Option.or_none]

/-! ### Sorted pairs -/

/-- The keys grow, so each of them occurs once. -/
def Ordered (pairs : List (String × α)) : Prop := pairs.Pairwise fun p q => p.1 < q.1

theorem mem_insert {key : String} {v : α} {pairs : List (String × α)} {p : String × α} :
    p ∈ insert key v pairs ↔ p = (key, v) ∨ p ∈ pairs := by
  induction pairs with
  | nil => simp [insert]
  | cons q r ih =>
      rw [insert]
      split
      · rw [List.mem_cons]
      · rw [List.mem_cons, ih, List.mem_cons, or_left_comm]

theorem Ordered.insert {key : String} (v : α) {pairs : List (String × α)} (h : Ordered pairs)
    (hkey : ∀ p ∈ pairs, p.1 ≠ key) : Ordered (insert key v pairs) := by
  induction pairs with
  | nil => exact List.pairwise_singleton _ _
  | cons q r ih =>
      obtain ⟨hless, hrest⟩ := List.pairwise_cons.mp h
      obtain ⟨hq, hr⟩ := List.forall_mem_cons.mp hkey
      rw [KeyedList.insert]
      split
      · rename_i hlt
        refine List.pairwise_cons.mpr ⟨?_, h⟩
        intro p hp
        rcases List.mem_cons.mp hp with rfl | hp
        · exact hlt
        · exact String.lt_trans hlt (hless p hp)
      · rename_i hnot
        refine List.pairwise_cons.mpr ⟨?_, ih hrest hr⟩
        intro p hp
        rcases mem_insert.mp hp with rfl | hp
        · exact String.not_le.mp fun hle => hq (String.le_antisymm (String.not_lt.mp hnot) hle)
        · exact hless p hp

theorem sorted_ordered (pairs : List (String × α)) : Ordered (sorted pairs) := by
  induction pairs with
  | nil => exact List.Pairwise.nil
  | cons p r ih =>
      rw [sorted]
      split
      · exact ih
      · rename_i hnone
        refine ih.insert p.2 fun q hq heq => hnone ?_
        exact List.any_eq_true.mpr ⟨q, hq, beq_iff_eq.mpr heq⟩

/-- The pairs that are kept are those that count. -/
theorem mem_sorted {pairs : List (String × α)} {p : String × α} :
    p ∈ sorted pairs ↔ last? p.1 pairs = some p.2 := by
  induction pairs generalizing p with
  | nil => simp [sorted, last?]
  | cons q r ih =>
      rw [sorted]
      split
      · rename_i hlater
        obtain ⟨s, hs, hkey⟩ := List.any_eq_true.mp hlater
        have hq : last? q.1 r = some s.2 := by rw [← eq_of_beq hkey, ih.mp hs]
        rw [ih, last?]
        by_cases hp : q.1 = p.1
        · rw [← hp, hq, Option.some_or]
        · rw [if_neg hp, Option.or_none]
      · rename_i hlater
        have hq : last? q.1 r = none := by
          cases hlast : last? q.1 r with
          | none => rfl
          | some v =>
              have hmem : (q.1, v) ∈ sorted r := ih.mpr hlast
              exact absurd (List.any_eq_true.mpr ⟨_, hmem, beq_self_eq_true q.1⟩) hlater
        rw [mem_insert, ih, last?]
        by_cases hp : q.1 = p.1
        · rw [← hp, hq, if_pos rfl, Option.none_or, Option.some_inj]
          constructor
          · rintro (rfl | h)
            · rfl
            · cases h
          · intro hv
            exact .inl (Prod.ext hp.symm hv.symm)
        · have hne : p ≠ (q.1, q.2) := fun h => hp (congrArg Prod.fst h).symm
          rw [if_neg hp, Option.or_none]
          simp [hne]

/-- No key is lost. -/
theorem mem_keys_sorted {key : String} {pairs : List (String × α)} :
    key ∈ (sorted pairs).map (·.1) ↔ key ∈ pairs.map (·.1) := by
  constructor
  · intro h
    obtain ⟨p, hp, rfl⟩ := List.mem_map.mp h
    obtain ⟨before, after, rfl, -⟩ := last?_eq_some_iff.mp (mem_sorted.mp hp)
    simp
  · intro h
    obtain ⟨p, hp, rfl⟩ := List.mem_map.mp h
    cases hlast : last? p.1 pairs with
    | none => exact absurd rfl (last?_eq_none_iff.mp hlast p hp)
    | some v => exact List.mem_map.mpr ⟨(p.1, v), mem_sorted.mpr hlast, rfl⟩

theorem Ordered.keys_nodup {pairs : List (String × α)} (h : Ordered pairs) :
    (pairs.map (·.1)).Nodup := by
  refine List.pairwise_map.mpr (h.imp ?_)
  intro p q hless heq
  exact String.lt_irrefl p.1 (heq ▸ hless)

/-- Where keys occur once, a look-up finds the members. -/
theorem Ordered.first?_eq_some_iff {pairs : List (String × α)} (h : Ordered pairs) {key : String}
    {v : α} : first? key pairs = some v ↔ (key, v) ∈ pairs := by
  induction pairs with
  | nil => simp [first?]
  | cons p r ih =>
      obtain ⟨hless, hrest⟩ := List.pairwise_cons.mp h
      by_cases hkey : p.1 = key
      · have hfirst : first? key (p :: r) = some p.2 := by simp [first?, hkey]
        have hnot : (key, v) ∉ r := by
          intro hmem
          have hlt : p.1 < key := hless _ hmem
          exact String.lt_irrefl key (hkey ▸ hlt)
        rw [hfirst, List.mem_cons, or_iff_left hnot, Option.some_inj]
        exact ⟨fun hv => Prod.ext hkey.symm hv.symm, fun heq => (congrArg Prod.snd heq).symm⟩
      · have hfirst : first? key (p :: r) = first? key r := by simp [first?, hkey]
        have hne : (key, v) ≠ p := fun heq => hkey (congrArg Prod.fst heq).symm
        rw [hfirst, ih hrest, List.mem_cons, or_iff_right hne]

theorem first?_sorted (key : String) (pairs : List (String × α)) :
    first? key (sorted pairs) = last? key pairs := by
  apply Option.ext
  intro v
  rw [(sorted_ordered pairs).first?_eq_some_iff, mem_sorted]

/-- Sorted pairs are determined by what is looked up in them. -/
theorem sorted_congr {a b : List (String × α)} (h : ∀ key, last? key a = last? key b) :
    sorted a = sorted b := by
  have hnodup (pairs : List (String × α)) : (sorted pairs).Nodup := by
    refine (sorted_ordered pairs).imp ?_
    intro p q hless heq
    exact String.lt_irrefl _ (heq ▸ hless)
  have hperm : (sorted a).Perm (sorted b) := by
    refine (List.perm_ext_iff_of_nodup (hnodup a) (hnodup b)).mpr fun p => ?_
    rw [mem_sorted, mem_sorted, h]
  exact hperm.eq_of_pairwise (fun p q _ _ hpq hqp => absurd hqp (String.lt_asymm hpq))
    (sorted_ordered a) (sorted_ordered b)

end CameraGraph.KeyedList
