import CameraGraph.Proofs.BranchShape

/-!
# CameraGraph.Proofs.ChainParts

Which part of a branch each element of its chain belongs to.

An element does not tell what it is there for: queues stand in a chain for five reasons, a step may be
an element of any name, and a profile may decode frames with any element at all. `markedChain` is the
chain with that written beside each element, so that other modules can speak of the element that
decodes, of a queue between two steps, or of the elements of one step. Without its marks it is the
chain that compiling gives (`markedChain_elements`), and each step has one block of it
(`markedChain_block`).
-/

namespace CameraGraph

/-- What an element of a chain is there for. -/
inductive Part where
  /-- The source, with what unpacks its frames. -/
  | source
  /-- The element that decodes frames. -/
  | decoder
  /-- The element that attaches regions, and the queue behind it. -/
  | regions
  /-- A queue that keeps two steps apart. -/
  | separator
  /-- The step at a position. -/
  | step (i : Nat)
  /-- What leads to the legs: the tee, and before it what converts metadata. -/
  | ending
  deriving Repr, DecidableEq

/-- Elements that all belong to one part. -/
def Part.marks (part : Part) (es : List Element) : List (Part × Element) := es.map (part, ·)

@[simp] theorem Part.marks_nil (part : Part) : part.marks [] = [] := rfl

@[simp] theorem Part.marks_cons (part : Part) (e : Element) (es : List Element) :
    part.marks (e :: es) = (part, e) :: part.marks es := rfl

@[simp] theorem Part.map_snd_marks (part : Part) (es : List Element) :
    (part.marks es).map Prod.snd = es := by
  rw [marks, List.map_map]
  exact List.map_id es

theorem Part.fst_eq_of_mem_marks {part : Part} {es : List Element} {m : Part × Element}
    (hm : m ∈ part.marks es) : m.1 = part := by
  obtain ⟨e, -, rfl⟩ := List.mem_map.mp hm
  rfl

/-- Whether the last element is a queue. -/
def endsInQueue (ms : List (Part × Element)) : Bool := ms.getLast?.any (·.2.isQueue)

theorem endsInQueue_iff {ms : List (Part × Element)} :
    endsInQueue ms = true ↔ ∃ m, ms.getLast? = some m ∧ m.2.isQueue = true := by
  rw [endsInQueue]
  cases ms.getLast? with
  | none => simp
  | some m => simp

/-- What stands between two steps: a queue, unless there is one already. -/
def separation (spaced : Bool) : List (Part × Element) :=
  if spaced then [] else [(.separator, .queue)]

/-- A step that is not the first of its branch follows a queue, its own or another one. -/
theorem endsInQueue_separation (front : List (Part × Element)) :
    endsInQueue (front ++ separation (endsInQueue front)) = true := by
  cases hends : endsInQueue front with
  | true =>
      rw [separation, if_pos rfl, List.append_nil]
      exact hends
  | false =>
      rw [separation, if_neg Bool.false_ne_true, endsInQueue, List.getLast?_concat]
      rfl

/-- Elements none of which belongs to a step at the position `i` or behind it. -/
def StepsBelow (i : Nat) (ms : List (Part × Element)) : Prop :=
  ∀ m ∈ ms, ∀ k, m.1 = .step k → k < i

namespace StepsBelow

variable {i : Nat} {as bs : List (Part × Element)}

theorem append (ha : StepsBelow i as) (hb : StepsBelow i bs) : StepsBelow i (as ++ bs) := by
  intro m hm
  rcases List.mem_append.mp hm with hm | hm
  · exact ha m hm
  · exact hb m hm

theorem mono (h : StepsBelow i as) {j : Nat} (hle : i ≤ j) : StepsBelow j as :=
  fun m hm k hk => Nat.lt_of_lt_of_le (h m hm k hk) hle

theorem marks {part : Part} (h : ∀ k, part = .step k → k < i) (es : List Element) :
    StepsBelow i (part.marks es) := by
  intro m hm k hk
  exact h k (by rw [← Part.fst_eq_of_mem_marks hm, hk])

theorem separation (spaced : Bool) : StepsBelow i (separation spaced) := by
  cases spaced with
  | true => exact fun m hm => absurd hm List.not_mem_nil
  | false =>
      have hqueue : StepsBelow i (Part.separator.marks [.queue]) :=
        marks (fun k hk => Part.noConfusion hk) _
      exact hqueue

end StepsBelow

namespace Compiler

variable (x : Compiler) (p : Place)

/-- The stages of steps at the positions from `i` on. A queue stands before each of them unless what
is before it ends in one; `spaced` says whether that is so for the first. -/
def markStages (i : Nat) (spaced : Bool) (last : Nat) : List BoundStep → List (Part × Element)
  | [] => []
  | s :: rest =>
    let (elements, last) := x.stage p last s
    separation spaced ++ (Part.step i).marks elements ++
      markStages (i + 1) (elements.getLast?.any Element.isQueue) last rest

/-! ### Stages -/

theorem stage_ne_nil (last : Nat) (s : BoundStep) : (x.stage p last s).1 ≠ [] := by
  intro hnil
  have hkind := x.stage_factories p last s
  rw [hnil] at hkind
  exact s.step.kind.factories_ne_nil hkind.symm

/-- Behind a stage there is a queue already if and only if the stage ends in one. -/
theorem endsInQueue_append_stage (front : List (Part × Element)) (part : Part) (last : Nat)
    (s : BoundStep) :
    endsInQueue (front ++ part.marks (x.stage p last s).1) =
      (x.stage p last s).1.getLast?.any Element.isQueue := by
  have hne : part.marks (x.stage p last s).1 ≠ [] := fun h =>
    x.stage_ne_nil p last s (List.map_eq_nil_iff.mp h)
  rw [endsInQueue, List.getLast?_append_of_ne_nil _ hne, Part.marks, List.getLast?_map]
  cases (x.stage p last s).1.getLast? <;> rfl

/-- **Stages** stand behind a chain as they are marked. -/
theorem addStages_eq (chain : List Element) (first : Bool) (i last : Nat) (steps : List BoundStep) :
    (x.addStages p chain first last steps).1 =
      chain ++ (x.markStages p i (first || chain.getLast?.any Element.isQueue) last steps).map
        Prod.snd := by
  induction steps generalizing chain first i last with
  | nil => simp [addStages, markStages]
  | cons s rest ih =>
      simp only [addStages, markStages]
      rw [ih _ false (i + 1), List.getLast?_append_of_ne_nil _ (x.stage_ne_nil p last s)]
      cases first || chain.getLast?.any Element.isQueue <;> simp [separation]

/-- What comes before the step at the position `i + 1`, if `front` comes before the one before. -/
def throughStage (front : List (Part × Element)) (i : Nat) (spaced : Bool) (last : Nat)
    (s : BoundStep) : List (Part × Element) :=
  front ++ separation spaced ++ (Part.step i).marks (x.stage p last s).1

/-- **Step.** The first of several stages moves on to the front of the others. -/
theorem append_markStages_cons (front : List (Part × Element)) (i : Nat) (spaced : Bool) (last : Nat)
    (s : BoundStep) (rest : List BoundStep) :
    front ++ x.markStages p i spaced last (s :: rest) =
      x.throughStage p front i spaced last s ++
        x.markStages p (i + 1) (endsInQueue (x.throughStage p front i spaced last s))
          (x.stage p last s).2 rest := by
  simp only [throughStage, markStages]
  rw [x.endsInQueue_append_stage]
  simp only [List.append_assoc]

theorem stepsBelow_throughStage {front : List (Part × Element)} {i : Nat}
    (hfront : StepsBelow i front) (spaced : Bool) (last : Nat) (s : BoundStep) :
    StepsBelow (i + 1) (x.throughStage p front i spaced last s) := by
  refine ((hfront.mono (Nat.le_succ i)).append (.separation _)).append (.marks ?_ _)
  intro k hk
  cases hk
  exact Nat.lt_succ_self i

/-- Stages are marked as such, and the queues between them as separators. -/
theorem part_of_mem_markStages {i : Nat} {spaced : Bool} {last : Nat} {steps : List BoundStep}
    {m : Part × Element} (hm : m ∈ x.markStages p i spaced last steps) :
    m.1 = .separator ∨ ∃ k, i ≤ k ∧ m.1 = .step k := by
  induction steps generalizing i spaced last with
  | nil => exact absurd hm List.not_mem_nil
  | cons s rest ih =>
      simp only [markStages] at hm
      rcases List.mem_append.mp hm with hm | hm
      · rcases List.mem_append.mp hm with hm | hm
        · cases spaced with
          | true => exact absurd hm List.not_mem_nil
          | false => exact .inl (congrArg Prod.fst (List.mem_singleton.mp hm))
        · exact .inr ⟨i, Nat.le_refl i, Part.fst_eq_of_mem_marks hm⟩
      · rcases ih hm with hpart | ⟨k, hk, hpart⟩
        · exact .inl hpart
        · exact .inr ⟨k, Nat.le_of_succ_le hk, hpart⟩

/-- The last number that is taken before the stage of the step at the position `i`. -/
def numberBefore (last : Nat) (steps : List BoundStep) (i : Nat) : Nat :=
  last + ((steps.take i).filter BoundStep.detects).length

/-- **Blocks.** Each of several stages has one block of elements. Behind the first of them, what comes
before a block ends in a queue. -/
theorem markStages_block {front : List (Part × Element)} {i : Nat} (hfront : StepsBelow i front)
    (spaced : Bool) (last : Nat) (steps : List BoundStep) {j : Nat} {s : BoundStep}
    (hs : steps[j]? = some s) :
    ∃ before after, front ++ x.markStages p i spaced last steps =
        front ++ before ++ (Part.step (i + j)).marks (x.stage p (numberBefore last steps j) s).1 ++
          after ∧
      (0 < j ∨ spaced = endsInQueue front → endsInQueue (front ++ before) = true) ∧
      ∀ m ∈ front ++ before ++ after, m.1 ≠ .step (i + j) := by
  induction steps generalizing front i spaced last j with
  | nil => exact absurd hs (by simp)
  | cons s₀ rest ih =>
      rw [append_markStages_cons]
      cases j with
      | zero =>
          obtain rfl : s₀ = s := by simpa using hs
          refine ⟨separation spaced, _, rfl, ?_, ?_⟩
          · rintro (hlt | rfl)
            · exact absurd hlt (Nat.lt_irrefl 0)
            · exact endsInQueue_separation front
          · intro m hm hpart
            rcases List.mem_append.mp hm with hm | hm
            · exact Nat.lt_irrefl i ((hfront.append (.separation _)) m hm i hpart)
            · rcases x.part_of_mem_markStages p hm with hsep | ⟨k, hk, hstep⟩
              · exact Part.noConfusion (hsep.symm.trans hpart)
              · cases hstep.symm.trans hpart
                exact Nat.not_succ_le_self i hk
      | succ j =>
          -- The induction goes on behind the first stage, one position further.
          obtain ⟨before, after, heq, hends, hothers⟩ :=
            ih (x.stepsBelow_throughStage p hfront spaced last s₀)
              (endsInQueue (x.throughStage p front i spaced last s₀)) (x.stage p last s₀).2
              (by simpa using hs)
          have hnumber : numberBefore (x.stage p last s₀).2 rest j =
              numberBefore last (s₀ :: rest) (j + 1) := by
            rw [numberBefore, numberBefore, x.stage_last, List.take_succ_cons, List.filter_cons]
            split
            · rw [List.length_cons]; omega
            · rfl
          rw [hnumber, show i + 1 + j = i + (j + 1) by omega] at heq
          rw [show i + 1 + j = i + (j + 1) by omega] at hothers
          simp only [throughStage, List.append_assoc] at heq hends hothers
          refine ⟨separation spaced ++ (Part.step i).marks (x.stage p last s₀).1 ++ before, after,
            ?_, ?_, ?_⟩
          · simpa only [throughStage, List.append_assoc] using heq
          · intro _
            simpa only [List.append_assoc] using hends (.inr trivial)
          · simpa only [List.append_assoc] using hothers

/-! ### Whole chains -/

variable (b : Branch) (last : Nat)

/-- What follows the stages of a branch whose junction has the number `n`. -/
def branchEnd (n : Nat) : List Element :=
  (if hasTransform b.steps then [] else [element "gvametaconvert"]) ++
    [(element "tee").prop "name" (b.teeName n)]

/-- What comes before the stages of a branch. -/
def markedFront : List (Part × Element) :=
  Part.source.marks (x.sourceElements last b.source).1 ++
    Part.decoder.marks [element (x.decoder (firstDevice b.steps))] ++
    Part.regions.marks (attachRegions (regionsOf b.steps))

/-- The chain of a branch with its parts. The first stage follows without a queue. -/
def markedChain : List (Part × Element) :=
  x.markedFront b last ++ x.markStages b.place 0 true (last + 1) b.steps ++
    Part.ending.marks (branchEnd b (last + b.numbers))

/-- **Chain.** Without its marks it is what the branch is compiled to. -/
theorem markedChain_elements :
    (x.markedChain b last).map Prod.snd = (x.compile b last).1.chain := by
  simp only [compile, sourceElements_last, allocate, lastStage_succ]
  rw [x.addStages_eq b.place _ true 0]
  simp [markedChain, markedFront, branchEnd, Branch.teeName, decoder]

/-- The chain, with its stages as they follow nothing: what is in front of them makes no difference. -/
theorem compile_chain :
    (x.compile b last).1.chain =
      (x.sourceElements last b.source).1 ++ element (x.decoder (firstDevice b.steps)) ::
        (attachRegions (regionsOf b.steps) ++
          (x.addStages b.place [] true (last + 1) b.steps).1 ++
          branchEnd b (last + b.numbers)) := by
  rw [← markedChain_elements, x.addStages_eq b.place [] true 0]
  simp [markedChain, markedFront]

theorem stepsBelow_markedFront : StepsBelow 0 (x.markedFront b last) := by
  refine ((StepsBelow.marks ?_ _).append (.marks ?_ _)).append (.marks ?_ _)
  all_goals exact fun k hk => Part.noConfusion hk

/-- **Blocks.** Each step has one block of elements behind the front. Unless it is the first step,
what comes before its block ends in a queue. -/
theorem markedChain_block {i : Nat} {s : BoundStep} (hs : b.steps[i]? = some s) :
    ∃ before after, x.markedChain b last = x.markedFront b last ++ before ++
        (Part.step i).marks (x.stage b.place (numberBefore (last + 1) b.steps i) s).1 ++ after ∧
      (0 < i → endsInQueue (x.markedFront b last ++ before) = true) ∧
      ∀ m ∈ x.markedFront b last ++ before ++ after, m.1 ≠ .step i := by
  obtain ⟨before, after, heq, hends, hothers⟩ := x.markStages_block b.place
    (x.stepsBelow_markedFront b last) true (last + 1) b.steps hs
  rw [Nat.zero_add] at heq hothers
  refine ⟨before, after ++ Part.ending.marks (branchEnd b (last + b.numbers)), ?_, ?_, ?_⟩
  · rw [markedChain, heq, List.append_assoc]
  · exact fun hlt => hends (.inl hlt)
  · intro m hm hpart
    rw [← List.append_assoc] at hm
    rcases List.mem_append.mp hm with hm | hm
    · exact hothers m hm hpart
    · exact Part.noConfusion ((Part.fst_eq_of_mem_marks hm).symm.trans hpart)

end Compiler
end CameraGraph
