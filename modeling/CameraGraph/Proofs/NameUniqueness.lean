import CameraGraph.Proofs.Allocation
import CameraGraph.Proofs.NumberedText
import CameraGraph.Graph

/-!
# CameraGraph.Proofs.NameUniqueness

No two elements of a run have one name, and no two of its branches write one result file.

Names are made in four ways, from arbitrary camera ids, workload names and positions, so nothing but
the number in a name tells it from the others. `FreshNames` is the invariant: the names and the result
files of whatever was compiled while the last number went from `last` to `last'` are numbered within
that interval. One branch has it (`compile_fresh`), and it is kept by everything that goes on where
the last number was left: a list of branches, a session of requests, the cameras and rounds of a run.
-/

namespace CameraGraph

/-! ### Distinct names -/

/-- No name and no result file of these branches occurs twice. -/
def DistinctNames (bs : List CompiledBranch) : Prop :=
  (bs.flatMap (·.names)).Nodup ∧ (bs.flatMap (·.resultFiles)).Nodup

/-- What stands behind the number of a result file. -/
def Compiler.fileEnding (x : Compiler) : String := "_" ++ x.settings.timestamp ++ ".jsonl"

/-- The invariant: what was compiled while the last number went from `last` to `last'` is named by
numbers taken on the way. -/
structure FreshNames (x : Compiler) (last last' : Nat) (bs : List CompiledBranch) : Prop where
  /-- Names end in their numbers. -/
  names : Numbered "" last last' (bs.flatMap (·.names))
  /-- Result files have an ending behind theirs. -/
  files : Numbered x.fileEnding last last' (bs.flatMap (·.resultFiles))

namespace FreshNames

variable {x : Compiler} {last mid last' : Nat} {as bs : List CompiledBranch}

theorem nil (h : last ≤ last') : FreshNames x last last' [] := ⟨.nil h, .nil h⟩

/-- What goes on where the last number was left keeps the names apart. -/
theorem append (ha : FreshNames x last mid as) (hb : FreshNames x mid last' bs) :
    FreshNames x last last' (as ++ bs) := by
  refine ⟨?_, ?_⟩
  · rw [List.flatMap_append]
    exact ha.names.append hb.names
  · rw [List.flatMap_append]
    exact ha.files.append hb.files

theorem distinct (h : FreshNames x last last' bs) : DistinctNames bs :=
  ⟨h.names.nodup, h.files.nodup⟩

end FreshNames

/-! ### One branch -/

namespace Compiler

variable (x : Compiler)

theorem carries_detectorName (s : BoundStep) (n : Nat) : Carries "" n (s.detectorName n) :=
  carries_sanitize (s.cameraId ++ "_" ++ s.workload) n

theorem carries_resultFile (b : Branch) (n : Nat) : Carries x.fileEnding n (x.resultFile b n) := by
  refine Carries.join _ ⟨"rs-" ++ b.place.text ++ "_", ?_⟩
  rw [← String.toList_inj]
  simp [fileEnding]

/-- The two names that share a number start differently. -/
theorem teeName_ne_counterName (b : Branch) (n : Nat) : b.teeName n ≠ b.counterName n := by
  intro h
  have hsecond := congrArg (fun s : String => s.toList.head?) h
  simp [Branch.teeName, Branch.counterName] at hsecond

theorem compile_names_numbered (b : Branch) (last : Nat) :
    Numbered "" last (x.compile b last).2 (x.compile b last).1.names := by
  -- Three stretches of numbers: the source's, those of the detections, the junction's.
  have hsource : Numbered "" last (last + 1) [b.sourceName (last + 1)] :=
    .singleton (carries_append _ _)
  have hdetectors : Numbered "" (last + 1) (last + 1 + b.detectors.length)
      (b.detectors.mapIdx fun i s => s.detectorName (last + 2 + i)) :=
    .mapIdx _ fun i s => carries_detectorName s (last + 2 + i)
  have hjunction : Numbered "" (last + 1 + b.detectors.length) (last + b.numbers)
      [b.teeName (last + b.numbers), b.counterName (last + b.numbers)] := by
    rw [show last + b.numbers = last + 1 + b.detectors.length + 1 by rw [Branch.numbers]; omega]
    exact .pair (carries_append _ _) (carries_append _ _) (teeName_ne_counterName b _)
  rw [compile_last, compile_names]
  exact (hsource.append hdetectors).append hjunction

theorem compile_files_numbered (b : Branch) (last : Nat) :
    Numbered x.fileEnding last (x.compile b last).2 (x.compile b last).1.resultFiles := by
  rw [compile_last, compile_resultFiles]
  split
  · exact .nil (Nat.le_add_right _ _)
  · -- The numbers of the source and the detections are in no file name.
    have hone : Numbered x.fileEnding (last + 1 + b.detectors.length) (last + b.numbers)
        [x.resultFile b (last + b.numbers)] := by
      rw [show last + b.numbers = last + 1 + b.detectors.length + 1 by rw [Branch.numbers]; omega]
      exact .singleton (x.carries_resultFile b _)
    exact hone.skip (by omega)

/-- **Step.** One branch names its elements by the numbers it takes. -/
theorem compile_fresh (b : Branch) (last : Nat) :
    FreshNames x last (x.compile b last).2 [(x.compile b last).1] := by
  refine ⟨?_, ?_⟩
  · rw [List.flatMap_singleton]
    exact x.compile_names_numbered b last
  · rw [List.flatMap_singleton]
    exact x.compile_files_numbered b last

theorem compileAll_fresh (bs : List Branch) (last : Nat) :
    FreshNames x last (x.compileAll last bs).2 (x.compileAll last bs).1 := by
  induction bs generalizing last with
  | nil => exact .nil (Nat.le_refl last)
  | cons b rest ih => exact (x.compile_fresh b last).append (ih (x.compile b last).2)

end Compiler

/-! ### Sessions -/

/-- What may be asked of whatever hands out numbers. -/
inductive Request where
  /-- A number, for anything. -/
  | number
  /-- A branch as elements. -/
  | branch (b : Branch)

/-- What a request makes, with the last number taken. -/
def Request.serve (x : Compiler) (last : Nat) : Request → List CompiledBranch × Nat
  | number => ([], (allocate last).2)
  | branch b =>
    let (compiled, last) := x.compile b last
    ([compiled], last)

/-- All branches of a session, whose requests are served in order and share their numbers. -/
def Compiler.session (x : Compiler) (last : Nat) : List Request → List CompiledBranch
  | [] => []
  | r :: rest =>
    let (made, last) := r.serve x last
    made ++ x.session last rest

theorem Request.serve_fresh (x : Compiler) (last : Nat) (r : Request) :
    FreshNames x last (r.serve x last).2 (r.serve x last).1 := by
  cases r with
  | number => exact .nil (Nat.le_succ last)
  | branch b => exact x.compile_fresh b last

/-- **Run.** A session keeps names apart, whatever is asked in whatever order. -/
theorem Compiler.session_fresh (x : Compiler) (requests : List Request) (last : Nat) :
    ∃ last', FreshNames x last last' (x.session last requests) := by
  induction requests generalizing last with
  | nil => exact ⟨last, .nil (Nat.le_refl last)⟩
  | cons r rest ih =>
      obtain ⟨last', h⟩ := ih (r.serve x last).2
      exact ⟨last', (r.serve_fresh x last).append h⟩

/-! ### Graphs -/

namespace Graph

/-- Parts that keep names apart do so one after another. -/
theorem inTurn_fresh {x : Compiler} {α : Type} {part : α → Nat → Stretch}
    (h : ∀ a last, FreshNames x last (part a last).last (part a last).branches) (as : List α)
    (last : Nat) :
    FreshNames x last (inTurn part last as).last (inTurn part last as).branches := by
  induction as generalizing last with
  | nil => exact .nil (Nat.le_refl last)
  | cons a rest ih => exact (h a last).append (ih (part a last).last)

theorem cameraStretch_fresh (x : Compiler) (map : WorkloadMap) (round : Nat) (c : Camera × Nat)
    (last : Nat) :
    FreshNames x last (cameraStretch x map round c last).last
      (cameraStretch x map round c last).branches :=
  x.compileAll_fresh _ last

theorem roundStretch_fresh (x : Compiler) (map : WorkloadMap) (cameras : List Camera)
    (round last : Nat) :
    FreshNames x last (roundStretch x map cameras round last).last
      (roundStretch x map cameras round last).branches :=
  inTurn_fresh (cameraStretch_fresh x map round) _ last

theorem compile_fresh (x : Compiler) (inputs : Inputs) (count : Nat) :
    ∃ last', FreshNames x 0 last' (compile x inputs count).1.branches :=
  ⟨_, inTurn_fresh (roundStretch_fresh x inputs.workloads _) _ 0⟩

end Graph

/-- **Uniqueness of names.** In every session that shares its numbers, wherever they start, and in
every graph of a run, no name and no result file occurs twice. -/
theorem names_distinct (x : Compiler) :
    (∀ (last : Nat) (requests : List Request), DistinctNames (x.session last requests)) ∧
      ∀ (inputs : Inputs) (count : Nat),
        DistinctNames (Graph.compile x inputs count).1.branches := by
  refine ⟨?_, ?_⟩
  · intro last requests
    obtain ⟨last', h⟩ := x.session_fresh requests last
    exact h.distinct
  · intro inputs count
    obtain ⟨last', h⟩ := Graph.compile_fresh x inputs count
    exact h.distinct

end CameraGraph
