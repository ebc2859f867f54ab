import CameraGraph.Proofs.Json.Reading
import CameraGraph.Signature
import Mathlib.Data.List.Forall2

/-!
# CameraGraph.Proofs.SignatureEncoding

A signature loses nothing of what it is made of.

The text of a signature is a document of steps: the reader of workload documents takes it back to the
steps it was made of, bare of what signatures leave out (`parseList_ofSteps`). So equal signatures
come from step lists that agree position by position, which is what makes it safe to serve two
workloads by one branch when only their signatures are compared.
-/

namespace CameraGraph

open Json

/-! ### Kinds and their names -/

namespace StepKind

/-- A kind that a document can give: the one that some name stands for. An `unknown` kind under the
name of a known element is none. -/
def Named (k : StepKind) : Prop := ∃ name, k = ofName name

theorem name_ofName (name : String) : (ofName name).name = name := by
  unfold ofName
  -- Four names have kinds of their own, and utilities are found by their names.
  iterate 4
    split
    · subst_vars; rfl
  cases h : Utility.ofFactory? name with
  | none => rfl
  | some u =>
      rw [Utility.ofFactory?] at h
      have hfactory := List.find?_some h
      exact eq_of_beq hfactory

/-- A kind that stands for a name stands for its own. -/
theorem Named.ofName_name {k : StepKind} (h : k.Named) : ofName k.name = k := by
  obtain ⟨name, rfl⟩ := h
  rw [name_ofName]

end StepKind

/-! ### Steps that agree -/

namespace Step

/-- Agreement of two steps in all that a signature is made of. -/
structure Agrees (a b : Step) : Prop where
  /-- They do the same. -/
  kind : a.kind = b.kind
  /-- They run the same model, -/
  model : a.model = b.model
  /-- in the same precision, -/
  precision : a.precision = b.precision
  /-- on the same device. -/
  device : a.device = b.device

/-- A step without what signatures leave out. -/
def bare (s : Step) : Step :=
  { kind := s.kind, model := s.model, device := s.device, precision := s.precision }

theorem bare_eq_iff {a b : Step} : a.bare = b.bare ↔ a.Agrees b := by
  constructor
  · intro h
    obtain ⟨hkind, hmodel, hdevice, hprecision, -⟩ := Step.mk.inj h
    exact ⟨hkind, hmodel, hprecision, hdevice⟩
  · rintro ⟨hkind, hmodel, hprecision, hdevice⟩
    rw [bare, bare, hkind, hmodel, hprecision, hdevice]

theorem agrees_bare (s : Step) : s.Agrees s.bare := ⟨rfl, rfl, rfl, rfl⟩

/-- Step lists agree position by position when nothing is left to tell them apart. -/
theorem forall₂_agrees_iff {as bs : List Step} :
    List.Forall₂ Agrees as bs ↔ as.map bare = bs.map bare := by
  rw [← List.forall₂_eq_eq_eq, List.forall₂_map_left_iff, List.forall₂_map_right_iff]
  simp only [bare_eq_iff]

end Step

/-! ### The text of a signature -/

namespace Signature

/-- The text of a value that may be missing. -/
def optionalChars (o : Option String) : List Char := (optionalText o).chars

/-- The members of the object that a step becomes, with what they change when it is read back. -/
def members (s : Step) : List (Member Step) :=
  [⟨"device", optionalChars s.device, fun t => { t with device := s.device }⟩,
    ⟨"model", optionalChars s.model, fun t => { t with model := s.model }⟩,
    ⟨"precision", optionalChars s.precision, fun t => { t with precision := s.precision }⟩,
    ⟨"type", stringChars s.kind.name, fun t => { t with kind := .ofName s.kind.name }⟩]

theorem members_keys (s : Step) :
    (members s).map Member.key = ["device", "model", "precision", "type"] := rfl

/-- The members of an entry are written in the order of their keys already. -/
theorem entry_chars (s : Step) :
    (entry s).chars = '\x7b' :: [','].intercalate ((members s).map Member.chars) ++ ['\x7d'] := by
  have hsorted : KeyedList.sorted [("device", optionalChars s.device),
      ("model", optionalChars s.model), ("precision", optionalChars s.precision),
      ("type", stringChars s.kind.name)] =
      [("device", optionalChars s.device), ("model", optionalChars s.model),
        ("precision", optionalChars s.precision), ("type", stringChars s.kind.name)] :=
    KeyedList.sorted_of_pairwise
      (by decide : ["device", "model", "precision", "type"].Pairwise (· < ·))
  rw [entry, Value.chars]
  simp only [memberTexts, Value.chars]
  rw [← optionalChars, ← optionalChars, ← optionalChars, hsorted]
  rfl

theorem itemTexts_map (steps : List Step) :
    itemTexts (steps.map entry) = steps.map fun s => (entry s).chars := by
  induction steps with
  | nil => rfl
  | cons s rest ih => rw [List.map_cons, itemTexts, ih, List.map_cons]

theorem ofSteps_text (steps : List Step) :
    (ofSteps steps).text =
      String.ofList ('[' :: [','].intercalate (steps.map fun s => (entry s).chars) ++ [']']) := by
  rw [ofSteps, Value.compact, Value.chars, itemTexts_map]

theorem reads_optionalChars (depth : Nat) (o : Option String) :
    Reads (Json.optional Json.text depth) (optionalChars o) o := by
  cases o with
  | none => exact reads_optional_null depth Json.text
  | some s =>
      rw [optionalChars, optionalText, Value.chars]
      exact reads_optional_text depth s

/-- A step has a field for every member of an entry. -/
theorem members_known (s : Step) (depth : Nat) : ∀ m ∈ members s, Step.shape.Knows depth m := by
  intro m hm
  simp only [members, List.mem_cons, List.not_mem_nil, or_false] at hm
  rcases hm with rfl | rfl | rfl | rfl
  · exact ⟨_, rfl, (reads_optionalChars depth s.device).field _ _⟩
  · exact ⟨_, rfl, (reads_optionalChars depth s.model).field _ _⟩
  · exact ⟨_, rfl, (reads_optionalChars depth s.precision).field _ _⟩
  · exact ⟨_, rfl, (reads_text depth s.kind.name).neededField _ _⟩

/-- **One entry.** The entry of a step is read back as the bare step. -/
theorem reads_entry {s : Step} (h : s.kind.Named) (depth : Nat) :
    Reads (Step.shape.decoder (depth + 1)) (entry s).chars s.bare := by
  have hnodup : ((members s).map Member.key).Nodup := by
    rw [members_keys]
    decide
  have hrequired : ∀ f ∈ Step.shape.fields, f.required → f.key ∈ (members s).map Member.key := by
    intro f hf hreq
    simp only [Step.shape, List.mem_cons, List.not_mem_nil, or_false] at hf
    rcases hf with rfl | rfl | rfl | rfl | rfl | rfl | rfl
    -- Of all fields only the kind of a step is required.
    · simp [members_keys, Field.needed, Field.optional]
    all_goals exact absurd hreq (by simp [Field.optional])
  have hread := Shape.reads_decoder (members s) (members_known s depth) hnodup hrequired
  have hfold : (members s).foldl (fun r m => m.change r) Step.shape.empty = s.bare := by
    show ({ kind := .ofName s.kind.name, model := s.model, device := s.device,
            precision := s.precision } : Step) = s.bare
    rw [h.ofName_name]
    rfl
  rw [entry_chars, ← hfold]
  exact hread

theorem entry_startsItem (s : Step) : StartsItem (entry s).chars := by
  rw [entry_chars]
  exact ⟨_, _, rfl, by decide, by decide⟩

/-- **Reading back.** The reader of step lists makes the bare steps of a signature. -/
theorem parseList_ofSteps {steps : List Step} (h : ∀ s ∈ steps, s.kind.Named) :
    Step.parseList (ofSteps steps).text = .ok (steps.map Step.bare) := by
  rw [ofSteps_text, Step.parseList]
  refine Reads.whole (reads_listOf steps fun s hs => ⟨?_, entry_startsItem s⟩)
  exact reads_entry (h s hs) 125

/-- A signature is made of bare steps only. -/
theorem ofSteps_bare (steps : List Step) : ofSteps (steps.map Step.bare) = ofSteps steps := by
  rw [ofSteps, ofSteps, List.map_map]
  rfl

/-- Equal signatures come from steps that agree position by position, and from no others. -/
theorem ofSteps_eq_iff {as bs : List Step} (ha : ∀ s ∈ as, s.kind.Named)
    (hb : ∀ s ∈ bs, s.kind.Named) :
    ofSteps as = ofSteps bs ↔ List.Forall₂ Step.Agrees as bs := by
  rw [Step.forall₂_agrees_iff]
  constructor
  · intro h
    -- Reading undoes signing, so it gives the same bare steps on both sides.
    have hread := parseList_ofSteps ha
    rw [h, parseList_ofSteps hb] at hread
    exact (Except.ok.inj hread).symm
  · intro h
    rw [← ofSteps_bare as, h, ofSteps_bare]

/-- **Losslessness.** For steps whose kinds stand for names, however their texts are written: the
signature is read back as a list of steps that agree with them position by position and have no
module, function or region; the steps read back have the same signature; and exactly the step lists
that agree with them do. -/
theorem ofSteps_lossless (as : List Step) (ha : ∀ s ∈ as, s.kind.Named) :
    ∃ parsed, Step.parseList (ofSteps as).text = .ok parsed ∧
      List.Forall₂ (fun s t => s.Agrees t ∧ t.module = none ∧ t.function = none ∧ t.region = none)
        as parsed ∧
      ofSteps parsed = ofSteps as ∧
      ∀ bs : List Step, (∀ s ∈ bs, s.kind.Named) →
        (ofSteps as = ofSteps bs ↔ List.Forall₂ Step.Agrees as bs) := by
  refine ⟨as.map Step.bare, parseList_ofSteps ha, ?_, ofSteps_bare as, fun bs hb => ?_⟩
  · rw [List.forall₂_map_right_iff, List.forall₂_same]
    exact fun s _ => ⟨s.agrees_bare, rfl, rfl, rfl⟩
  · exact ofSteps_eq_iff ha hb

/-- A quoted name, a line break, an empty text and a missing one: all of them come back, and a device
of the name `null` stays apart from none. -/
theorem ofSteps_lossless_escapes :
    let as : List Step :=
      [{ kind := .detect, model := some "a\"b\\c\n", device := some "null" },
        { kind := .unknown "gva\u0001", precision := some "", module := some "m.py" }]
    let bs : List Step :=
      [{ kind := .detect, model := some "a\"b\\c\n" },
        { kind := .unknown "gva\u0001", precision := some "" }]
    (∀ s ∈ as, s.kind.Named) ∧
      (∃ parsed, Step.parseList (ofSteps as).text = .ok parsed ∧ ofSteps parsed = ofSteps as) ∧
      ofSteps as ≠ ofSteps bs := by
  intro as bs
  have hdetect : StepKind.detect.Named := ⟨"gvadetect", rfl⟩
  have hunknown : (StepKind.unknown "gva\u0001").Named := ⟨"gva\u0001", by decide⟩
  have ha : ∀ s ∈ as, s.kind.Named := by simp [as, hdetect, hunknown]
  have hb : ∀ s ∈ bs, s.kind.Named := by simp [bs, hdetect, hunknown]
  obtain ⟨parsed, hread, -, hsame, hiff⟩ := ofSteps_lossless as ha
  refine ⟨ha, ⟨parsed, hread, hsame⟩, fun heq => ?_⟩
  obtain ⟨hfirst, -⟩ := List.forall₂_cons.mp ((hiff bs hb).mp heq)
  exact absurd hfirst.device (by decide)

end Signature

end CameraGraph
