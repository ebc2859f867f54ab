import CameraGraph.Branch.Compile
import CameraGraph.Count
import Mathlib.Data.List.Induction
import Mathlib.Data.Nat.Digits.Defs

/-!
# CameraGraph.Proofs.NumericKnobs

The numbers that a run is given from outside: the count of rounds and the batch sizes.

Both are texts from a command line, an environment or a profile, so anything may stand in them. What
counts as a number is said by `Denotes`, by places of digits instead of the reader's running value, and
`Knob` says what becomes of a text: the number that is written, in silence, if it lies between one and
the limit, and one with one warning otherwise. No knob is ever zero, and none is a number other than the
one that was written because its digits did not fit.
-/

namespace CameraGraph

/-! ### Written numbers -/

/-- The number that a digit stands for. -/
def digitValue (c : Char) : Nat := c.toNat - '0'.toNat

/-- One or more ASCII digits, behind a plus sign or not, that stand for `n` by their places. -/
def Denotes (cs : List Char) (n : Nat) : Prop :=
  ∃ ds, (cs = ds ∨ cs = '+' :: ds) ∧ ds ≠ [] ∧ (∀ d ∈ ds, d.isDigit) ∧
    n = Nat.ofDigits 10 (ds.reverse.map digitValue)

/-- The running value of digits is their value by places. -/
theorem digitsValue_eq_ofDigits (ds : List Char) :
    digitsValue ds = Nat.ofDigits 10 (ds.reverse.map digitValue) := by
  induction ds using List.reverseRecOn with
  | nil => rfl
  | append_singleton ds d ih =>
      rw [List.reverse_append, List.reverse_singleton, List.singleton_append, List.map_cons,
        Nat.ofDigits_cons, ← ih, digitsValue, List.foldl_append]
      exact Nat.add_comm _ _

/-- The text, trimmed, denotes the number, which is positive and at most `limit`. -/
def WrittenUpTo (limit : Nat) (raw : String) (n : Nat) : Prop :=
  Denotes (Text.trim raw).toList n ∧ 1 ≤ n ∧ n ≤ limit

/-- What becomes of a knob with numbers up to `limit`: it is the number `n`, and `log` is said about it.
Without a text it is one, and so it is with a text that denotes no such number, which one warning
reports. -/
def Knob (limit : Nat) : Option String → Nat → Log → Prop
  | none, n, log => n = 1 ∧ log = []
  | some raw, n, log =>
    (∀ m, n = m ∧ log = [] ↔ WrittenUpTo limit raw m) ∧
      ((¬∃ m, WrittenUpTo limit raw m) → n = 1 ∧ ∃ text, log = [.warning text])

namespace Knob

variable {limit : Nat} {raw : String} {o : Option String} {n : Nat} {log : Log}

/-- No knob is zero, and none is beyond its limit. -/
theorem range (h : Knob limit o n log) (hlimit : 1 ≤ limit) : 1 ≤ n ∧ n ≤ limit := by
  cases o with
  | none =>
      obtain ⟨rfl, -⟩ := h
      exact ⟨Nat.le_refl 1, hlimit⟩
  | some raw =>
      by_cases hwritten : ∃ m, WrittenUpTo limit raw m
      · obtain ⟨m, hm⟩ := hwritten
        obtain ⟨rfl, -⟩ := (h.1 m).mpr hm
        exact hm.2
      · obtain ⟨rfl, -⟩ := h.2 hwritten
        exact ⟨Nat.le_refl 1, hlimit⟩

end Knob

end CameraGraph
