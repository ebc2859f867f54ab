import CameraGraph.ElementName
import CameraGraph.Number.Integer
import CameraGraph.Path
import Mathlib.Data.List.Nodup

/-!
# CameraGraph.Proofs.NumberedText

Texts that end in a number, and lists of such texts whose numbers come from an interval.

Every name of a run is some stem, an underscore and a number; a result file has a fixed ending behind
the number. The stem may be anything, underscores and digits included. As digits hold no underscore,
the last underscore before the ending marks where the number starts, so a text gives its number away
(`Carries.number_unique`), and texts with different numbers differ whatever their stems are.
-/

namespace CameraGraph

/-! ### Digits -/

theorem natDigits_injective {n m : Nat} (h : natDigits n = natDigits m) : n = m := by
  rw [natDigits, natDigits] at h
  rw [← Nat.ofDigitChars_ten_toDigits (n := n), h, Nat.ofDigitChars_ten_toDigits]

theorem underscore_notMem_natDigits (n : Nat) : '_' ∉ natDigits n :=
  Nat.underscore_not_in_toDigits

@[simp] theorem toList_natText (n : Nat) : (natText n).toList = natDigits n := by
  rw [natText, String.toList_ofList]

/-- Digits after the last underscore are found again whatever stands before it. -/
theorem digits_eq_of_append_eq {a b ds es : List Char} (hd : '_' ∉ ds) (he : '_' ∉ es)
    (h : a ++ '_' :: ds = b ++ '_' :: es) : ds = es := by
  -- Read from the end, the digits are what stands before the first underscore.
  have tail_of (a ds : List Char) (hd : '_' ∉ ds) :
      (a ++ '_' :: ds).reverse.takeWhile (· ≠ '_') = ds.reverse := by
    have hall : ∀ c ∈ ds.reverse, decide (c ≠ '_') = true := by
      intro c hc
      rw [decide_eq_true_eq]
      rintro rfl
      exact hd (List.mem_reverse.mp hc)
    rw [List.reverse_append, List.reverse_cons, List.append_assoc, List.takeWhile_append_of_pos hall]
    simp
  rw [← List.reverse_inj, ← tail_of a ds hd, h, tail_of b es he]

/-! ### Numbers in texts -/

/-- A text with the number `n` after an underscore, right before the ending. -/
def Carries (ending : String) (n : Nat) (s : String) : Prop :=
  ∃ stem, s = stem ++ "_" ++ natText n ++ ending

/-- A text carries one number at most. -/
theorem Carries.number_unique {ending s : String} {n m : Nat} (hn : Carries ending n s)
    (hm : Carries ending m s) : n = m := by
  obtain ⟨a, ha⟩ := hn
  obtain ⟨b, hb⟩ := hm
  have h := congrArg String.toList (ha.symm.trans hb)
  simp only [String.toList_append, toList_natText] at h
  have hcut := List.append_cancel_right h
  have hbar : a.toList ++ '_' :: natDigits n = b.toList ++ '_' :: natDigits m := by
    simpa using hcut
  exact natDigits_injective (digits_eq_of_append_eq (underscore_notMem_natDigits n)
    (underscore_notMem_natDigits m) hbar)

/-- Texts that carry different numbers differ. -/
theorem Carries.ne {ending s t : String} {n m : Nat} (hs : Carries ending n s)
    (ht : Carries ending m t) (h : n ≠ m) : s ≠ t := by
  rintro rfl
  exact h (hs.number_unique ht)

theorem carries_append (stem : String) (n : Nat) : Carries "" n (stem ++ "_" ++ natText n) :=
  ⟨stem, by rw [String.append_empty]⟩

/-! ### Names made bare -/

theorem allowed_of_isDigit {c : Char} (h : c.isDigit = true) : ElementName.allowed c = true := by
  simp [ElementName.allowed, Char.isAlphanum, h]

theorem allowed_of_mem_natDigits {n : Nat} {c : Char} (h : c ∈ natDigits n) :
    ElementName.allowed c = true :=
  allowed_of_isDigit (Nat.isDigit_of_mem_toDigits (by decide) (by decide) h)

/-- Characters of the alphabet at the end of a text are still there when a name is made of it. -/
theorem sanitizeChars_append {r : List Char} (s : List Char) (hr : r ≠ [])
    (hall : ∀ c ∈ r, ElementName.allowed c = true) :
    ∃ stem, ElementName.sanitizeChars (s ++ r) = stem ++ r := by
  have hmap : r.map (fun c => if ElementName.allowed c then c else '_') = r :=
    (List.map_congr_left fun c hc => if_pos (hall c hc)).trans (List.map_id r)
  unfold ElementName.sanitizeChars
  rw [List.map_append, hmap]
  split
  case h_1 h => exact absurd (List.append_eq_nil_iff.mp h).2 hr
  case h_2 c rest h =>
    rw [← h]
    split
    · exact ⟨_, (List.append_assoc ..).symm⟩
    · exact ⟨_, rfl⟩

/-- Making a name of a numbered text keeps the number. -/
theorem carries_sanitize (stem : String) (n : Nat) :
    Carries "" n (ElementName.sanitize (stem ++ "_" ++ natText n)) := by
  have hall : ∀ c ∈ '_' :: natDigits n, ElementName.allowed c = true := by
    intro c hc
    rcases List.mem_cons.mp hc with rfl | hc
    · decide
    · exact allowed_of_mem_natDigits hc
  obtain ⟨kept, hkept⟩ := sanitizeChars_append stem.toList (List.cons_ne_nil _ _) hall
  refine ⟨String.ofList kept, ?_⟩
  rw [ElementName.sanitize, ← String.toList_inj, String.toList_ofList]
  simpa [String.toList_append] using hkept

/-! ### Names of files -/

/-- What is joined to a directory stands at the end of the path. -/
theorem join_eq_append (base part : Path) : ∃ front, base.join part = front ++ part := by
  unfold Path.join
  split
  · exact ⟨"", (String.empty_append).symm⟩
  · split
    · exact ⟨base, rfl⟩
    · exact ⟨base ++ "/", rfl⟩

/-- A path keeps the number of the name that is joined to it. -/
theorem Carries.join {ending part : String} {n : Nat} (base : Path)
    (h : Carries ending n part) : Carries ending n (base.join part) := by
  obtain ⟨stem, rfl⟩ := h
  obtain ⟨front, hfront⟩ := join_eq_append base (stem ++ "_" ++ natText n ++ ending)
  exact ⟨front ++ stem, by rw [hfront]; simp only [String.append_assoc]⟩

/-! ### Lists of numbered texts -/

/-- Texts made while the last number taken went from `last` to `last'`: they are distinct, and each
carries a number taken on the way. -/
structure Numbered (ending : String) (last last' : Nat) (texts : List String) : Prop where
  /-- Numbers only grow. -/
  le : last ≤ last'
  /-- The texts are distinct. -/
  nodup : texts.Nodup
  /-- Their numbers were taken on the way. -/
  carries : ∀ s ∈ texts, ∃ n, last < n ∧ n ≤ last' ∧ Carries ending n s

namespace Numbered

variable {ending : String} {last mid last' : Nat} {as bs : List String}

/-- No texts, however many numbers were taken. -/
theorem nil (h : last ≤ last') : Numbered ending last last' [] :=
  ⟨h, List.nodup_nil, fun _ hs => absurd hs List.not_mem_nil⟩

/-- One text that carries the next number. -/
theorem singleton {s : String} (h : Carries ending (last + 1) s) :
    Numbered ending last (last + 1) [s] := by
  refine ⟨Nat.le_succ last, List.nodup_singleton s, ?_⟩
  intro t ht
  rw [List.mem_singleton.mp ht]
  exact ⟨last + 1, Nat.lt_succ_self last, Nat.le_refl _, h⟩

/-- Two texts may share the next number if they differ otherwise. -/
theorem pair {s t : String} (hs : Carries ending (last + 1) s) (ht : Carries ending (last + 1) t)
    (hne : s ≠ t) : Numbered ending last (last + 1) [s, t] := by
  refine ⟨Nat.le_succ last, ?_, ?_⟩
  · rw [List.nodup_cons, List.mem_singleton]
    exact ⟨hne, List.nodup_singleton t⟩
  · intro u hu
    refine ⟨last + 1, Nat.lt_succ_self last, Nat.le_refl _, ?_⟩
    rcases List.mem_pair.mp hu with rfl | rfl
    · exact hs
    · exact ht

/-- **Sequencing.** What is made later carries later numbers, so it differs from all made before. -/
theorem append (ha : Numbered ending last mid as) (hb : Numbered ending mid last' bs) :
    Numbered ending last last' (as ++ bs) := by
  refine ⟨Nat.le_trans ha.le hb.le, ?_, ?_⟩
  · refine List.nodup_append.mpr ⟨ha.nodup, hb.nodup, ?_⟩
    intro s hs t ht
    obtain ⟨n, -, hn, hcs⟩ := ha.carries s hs
    obtain ⟨m, hm, -, hct⟩ := hb.carries t ht
    -- The one number is at most `mid`, the other above it.
    exact hcs.ne hct (by omega)
  · intro s hs
    rcases List.mem_append.mp hs with hs | hs
    · obtain ⟨n, hlo, hhi, hc⟩ := ha.carries s hs
      exact ⟨n, hlo, Nat.le_trans hhi hb.le, hc⟩
    · obtain ⟨n, hlo, hhi, hc⟩ := hb.carries s hs
      exact ⟨n, Nat.lt_of_le_of_lt ha.le hlo, hhi, hc⟩

/-- Numbers may have been taken before that no text carries. -/
theorem skip (h : Numbered ending mid last' as) (hle : last ≤ mid) :
    Numbered ending last last' as :=
  (nil hle).append h

/-- One text for each item of a list, numbered in order. -/
theorem mapIdx {α : Type} (l : List α) {f : Nat → α → String}
    (h : ∀ i a, Carries ending (last + 1 + i) (f i a)) :
    Numbered ending last (last + l.length) (l.mapIdx f) := by
  induction l generalizing last f with
  | nil => exact nil (Nat.le_refl last)
  | cons a l ih =>
      rw [List.mapIdx_cons]
      have hhead : Numbered ending last (last + 1) [f 0 a] := singleton (h 0 a)
      have htail : Numbered ending (last + 1) (last + 1 + l.length)
          (l.mapIdx fun i => f (i + 1)) := by
        refine ih fun i b => ?_
        have := h (i + 1) b
        rwa [show last + 1 + (i + 1) = last + 1 + 1 + i by omega] at this
      have := hhead.append htail
      rwa [show last + 1 + l.length = last + (a :: l).length by simp; omega] at this

end Numbered

end CameraGraph
