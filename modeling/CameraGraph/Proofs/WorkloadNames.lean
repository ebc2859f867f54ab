import CameraGraph.Text.Utf8
import CameraGraph.Workload
import Mathlib.Data.List.Basic

/-!
# CameraGraph.Proofs.WorkloadNames

Workload names that are the same in lower case.

A workload map is made in two steps: the members of the document are sorted by name, bytewise, and
then the names are lower-cased and sorted again. A name given twice is settled in the first step,
where its last member counts. Names that become equal are settled in the second, where they come in
growing order, so the greatest of them counts (`Ordered.last?_map_iff`). As the sorted members know
nothing of the order of the document but which member of a name is the last, members of different
names may change places (`Reordered.last?_eq`).
-/

namespace CameraGraph

/-! ### Order by bytes -/

namespace Text

/-- The bytes of a text. -/
def bytes (s : String) : List Nat := s.toList.flatMap utf8Bytes

/-- The bytes of a lesser character are less, whatever follows either. -/
theorem utf8Bytes_append_lt {c d : Char} (h : c < d) (as bs : List Nat) :
    utf8Bytes c ++ as < utf8Bytes d ++ bs := by
  have hlt : c.toNat < d.toNat := UInt32.lt_iff_toNat_lt.mp (Char.lt_def.mp h)
  unfold utf8Bytes
  dsimp only
  split_ifs <;> simp only [List.cons_append, List.nil_append, List.cons_lt_cons_iff] <;> omega

/-- The bytes of a lesser text are less. -/
theorem bytes_lt_of_lt {s t : String} (h : s < t) : bytes s < bytes t := by
  have hchars {as bs : List Char} (h : List.Lex (· < ·) as bs) :
      as.flatMap utf8Bytes < bs.flatMap utf8Bytes := by
    induction h with
    | @nil c r =>
        obtain ⟨b, more, hc⟩ := utf8Bytes_eq_cons c
        rw [List.flatMap_nil, List.flatMap_cons, hc]
        exact List.Lex.nil
    | @cons c as bs h ih =>
        rw [List.flatMap_cons, List.flatMap_cons]
        exact List.append_left_lt ih
    | @rel c as d bs h =>
        rw [List.flatMap_cons, List.flatMap_cons]
        exact utf8Bytes_append_lt h _ _
  exact hchars h

/-- **Bytewise order.** The order of texts by characters is their order by bytes. -/
theorem bytes_lt_iff {s t : String} : bytes s < bytes t ↔ s < t := by
  refine ⟨?_, bytes_lt_of_lt⟩
  intro h
  by_contra hnot
  by_cases heq : t = s
  · rw [heq] at h
    exact List.lt_irrefl _ h
  · have hle : t ≤ s := String.not_lt.mp hnot
    have hlt : t < s := String.not_le.mp fun hge => heq (String.le_antisymm hle hge)
    exact List.lt_asymm h (bytes_lt_of_lt hlt)

end Text

/-! ### Keys that fall together -/

namespace KeyedList

variable {α : Type} {pairs as bs : List (String × α)}

/-- If keys are renamed, the pair of the greatest of those that become equal counts. -/
theorem Ordered.last?_map_iff (h : Ordered pairs) (f : String → String) {key : String} {v : α} :
    last? key (pairs.map fun p => (f p.1, p.2)) = some v ↔
      ∃ name, f name = key ∧ (name, v) ∈ pairs ∧
        ∀ p ∈ pairs, f p.1 = key → p.1 = name ∨ p.1 < name := by
  constructor
  · intro hlast
    obtain ⟨before, after, hmap, hafter⟩ := last?_eq_some_iff.mp hlast
    obtain ⟨before, rest, rfl, rfl, hrest⟩ := List.map_eq_append_iff.mp hmap
    obtain ⟨q, after, rfl, hq, rfl⟩ := List.map_eq_cons_iff.mp hrest
    obtain ⟨rfl, rfl⟩ := Prod.mk.inj hq
    refine ⟨q.1, rfl, List.mem_append_right _ List.mem_cons_self, ?_⟩
    intro p hp hkey
    rcases List.mem_append.mp hp with hp | hp
    · exact .inr ((List.pairwise_append.mp h).2.2 p hp q List.mem_cons_self)
    · rcases List.mem_cons.mp hp with rfl | hp
      · exact .inl rfl
      · exact absurd hkey (hafter _ (List.mem_map_of_mem hp))
  · rintro ⟨name, rfl, hmem, hgreatest⟩
    obtain ⟨before, after, rfl⟩ := List.append_of_mem hmem
    have hless := (List.pairwise_cons.mp (List.pairwise_append.mp h).2.1).1
    rw [last?_eq_some_iff]
    refine ⟨_, _, by rw [List.map_append, List.map_cons], ?_⟩
    intro p hp
    obtain ⟨q, hq, rfl⟩ := List.mem_map.mp hp
    intro hkey
    have hlt : name < q.1 := hless q hq
    rcases hgreatest q (List.mem_append_right _ (List.mem_cons_of_mem _ hq)) hkey with heq | hgt
    · exact String.lt_irrefl name (heq ▸ hlt)
    · exact String.lt_asymm hlt hgt

/-- Pairs of different keys have changed places. -/
inductive Reordered : List (String × α) → List (String × α) → Prop where
  /-- None have. -/
  | refl (pairs : List (String × α)) : Reordered pairs pairs
  /-- The first two have. -/
  | swap {p q : String × α} (h : p.1 ≠ q.1) (rest : List (String × α)) :
      Reordered (p :: q :: rest) (q :: p :: rest)
  /-- Some behind the first have. -/
  | cons (p : String × α) {as bs : List (String × α)} : Reordered as bs → Reordered (p :: as) (p :: bs)
  /-- Some have, and then more. -/
  | trans {as bs cs : List (String × α)} : Reordered as bs → Reordered bs cs → Reordered as cs

/-- The last pair of a key stays the last. -/
theorem Reordered.last?_eq (h : Reordered as bs) (key : String) : last? key as = last? key bs := by
  induction h with
  | refl pairs => rfl
  | @swap p q hne rest =>
      rw [last?, last?, last?, last?, Option.or_assoc, Option.or_assoc]
      by_cases hp : p.1 = key
      · have hq : q.1 ≠ key := fun hq => hne (hp.trans hq.symm)
        simp [hp, hq]
      · simp [hp]
  | cons p _ ih => rw [last?, last?, ih]
  | trans _ _ ihas ihbs => exact ihas.trans ihbs

end KeyedList

open KeyedList

/-! ### Workloads -/

namespace WorkloadMap

variable {members : List (String × List Step)}

/-- The steps that count under a key: those of the last member of a name, and no name that becomes
the same key is bytewise greater. -/
structure Settles (members : List (String × List Step)) (key name : String) (steps : List Step) :
    Prop where
  /-- The name becomes the key. -/
  lower_eq : Text.lower name = key
  /-- The steps stand under the name, which does not occur again. -/
  last : ∃ before after, members = before ++ (name, steps) :: after ∧ ∀ m ∈ after, m.1 ≠ name
  /-- The name is the greatest that becomes the key. -/
  greatest : ∀ m ∈ members, Text.lower m.1 = key →
    m.1 = name ∨ Text.bytes m.1 < Text.bytes name

theorem get?_ofMembers (key : String) :
    (ofMembers members).get? key =
      last? key ((sorted members).map fun m => (Text.lower m.1, m.2)) :=
  first?_sorted key _

theorem get?_eq_some_iff {key : String} {steps : List Step} :
    (ofMembers members).get? key = some steps ↔ ∃ name, Settles members key name steps := by
  have hgreatest (name : String) :
      (∀ m ∈ sorted members, Text.lower m.1 = key → m.1 = name ∨ m.1 < name) ↔
        ∀ m ∈ members, Text.lower m.1 = key →
          m.1 = name ∨ Text.bytes m.1 < Text.bytes name := by
    have hkeys : (∀ n ∈ (sorted members).map (·.1), Text.lower n = key → n = name ∨ n < name) ↔
        ∀ n ∈ members.map (·.1), Text.lower n = key → n = name ∨ n < name := by
      simp only [mem_keys_sorted]
    simpa only [List.forall_mem_map, Text.bytes_lt_iff] using hkeys
  rw [get?_ofMembers, (sorted_ordered members).last?_map_iff]
  refine exists_congr fun name => ?_
  rw [mem_sorted, last?_eq_some_iff, hgreatest]
  exact ⟨fun h => ⟨h.1, h.2.1, h.2.2⟩, fun h => ⟨h.lower_eq, h.last, h.greatest⟩⟩

theorem mem_keys_ofMembers {key : String} :
    key ∈ (ofMembers members).entries.map (·.1) ↔ ∃ m ∈ members, Text.lower m.1 = key := by
  have hlower : ((sorted members).map fun m => (Text.lower m.1, m.2)).map (·.1) =
      ((sorted members).map (·.1)).map Text.lower := by simp
  have hkeys : (∃ name ∈ (sorted members).map (·.1), Text.lower name = key) ↔
      ∃ name ∈ members.map (·.1), Text.lower name = key := by simp only [mem_keys_sorted]
  rw [ofMembers, mem_keys_sorted, hlower, List.mem_map, hkeys]
  simp only [List.mem_map, exists_exists_and_eq_and]

/-- **Colliding names.** For every sequence of members: the keys are the names in lower case, each
once; the steps under a key are those of the bytewise greatest name that becomes the key, and of its
last member; and members of different names may change places. -/
theorem greatest_name_counts (members : List (String × List Step)) :
    ((ofMembers members).entries.map (·.1)).Nodup ∧
    (∀ key, key ∈ (ofMembers members).entries.map (·.1) ↔
      ∃ m ∈ members, Text.lower m.1 = key) ∧
    (∀ key steps, (ofMembers members).get? key = some steps ↔
      ∃ name, Settles members key name steps) ∧
    ∀ other, Reordered members other → ofMembers other = ofMembers members := by
  refine ⟨(sorted_ordered _).keys_nodup, fun key => mem_keys_ofMembers,
    fun key steps => get?_eq_some_iff, ?_⟩
  intro other hother
  rw [ofMembers, ofMembers, sorted_congr hother.last?_eq]

/-- The Kelvin sign and the two cases of the letter become one key. Of them the sign is bytewise the
greatest, and its last member counts, wherever the others stand. -/
theorem greatest_name_counts_kelvin :
    let detect : Step := { kind := .detect }
    let members := [("\u212A", []), ("k", []), ("\u212A", [detect]), ("K", [detect, detect])]
    let other := [("\u212A", []), ("k", []), ("K", [detect, detect]), ("\u212A", [detect])]
    Reordered members other ∧ (ofMembers members).get? "k" = some [detect] ∧
      ofMembers other = ofMembers members := by
  intro detect members other
  have hother : Reordered members other := .cons _ (.cons _ (.swap (by decide) []))
  obtain ⟨-, -, hsteps, hreordered⟩ := greatest_name_counts members
  have hsettles : Settles members "k" "\u212A" [detect] :=
    { lower_eq := by decide +kernel
      last := ⟨[("\u212A", []), ("k", [])], [("K", [detect, detect])], rfl, by decide⟩
      greatest := by decide +kernel }
  exact ⟨hother, (hsteps _ _).mpr ⟨_, hsettles⟩, hreordered other hother⟩

end WorkloadMap
end CameraGraph
