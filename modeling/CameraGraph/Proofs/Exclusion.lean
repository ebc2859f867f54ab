import CameraGraph.Proofs.Rounds

/-!
# CameraGraph.Proofs.Exclusion

Cameras that ask for the excluding workload leave no trace in a graph.

What may be done to excluded cameras without anyone noticing is a relation on camera lists
(`ExcludedEdits`): take them out, or put other excluded cameras in their places. Such edits keep the
list of cameras that count, with the positions they have in it, and nothing else of the cameras goes
into a graph. The log is that of a run without the excluded cameras, behind one notice for each of
them.
-/

namespace CameraGraph.Graph

variable {marker : String}

/-- A camera is excluded by any of its names that is the marker when blanks around it and case do not
count. -/
theorem isExcluded_eq_false_iff {c : Camera} :
    isExcluded marker c = false ↔
      ∀ name ∈ c.workloads.names,
        Text.lower (Text.trim name) ≠ Text.lower (Text.trim marker) := by
  rw [isExcluded, normalMarker, WorkloadRefs.normalized, ← Bool.not_eq_true, List.contains_iff_mem,
    List.mem_map]
  exact ⟨fun h name hname heq => h ⟨name, hname, heq⟩, fun h ⟨name, hname, heq⟩ => h name hname heq⟩

theorem eligible_eq_filter (cameras : List Camera) :
    eligible cameras marker = cameras.filter fun c =>
      ∀ name ∈ c.workloads.names,
        Text.lower (Text.trim name) ≠ Text.lower (Text.trim marker) := by
  refine List.filter_congr fun c _ => ?_
  rw [Bool.eq_iff_iff, Bool.not_eq_true', isExcluded_eq_false_iff, decide_eq_true_iff]

/-! ### Edits -/

/-- Lists of cameras that differ in excluded cameras only: the second lacks some of the first, and has
other excluded cameras in the places of some. -/
inductive ExcludedEdits (marker : String) : List Camera → List Camera → Prop
  | nil : ExcludedEdits marker [] []
  | keep (c : Camera) {as bs : List Camera} :
      ExcludedEdits marker as bs → ExcludedEdits marker (c :: as) (c :: bs)
  | remove {c : Camera} {as bs : List Camera} (hc : isExcluded marker c = true) :
      ExcludedEdits marker as bs → ExcludedEdits marker (c :: as) bs
  | change {c d : Camera} {as bs : List Camera} (hc : isExcluded marker c = true)
      (hd : isExcluded marker d = true) :
      ExcludedEdits marker as bs → ExcludedEdits marker (c :: as) (d :: bs)

namespace ExcludedEdits

/-- Edits keep the cameras that count, in order. -/
theorem eligible_eq {as bs : List Camera} (h : ExcludedEdits marker as bs) :
    eligible as marker = eligible bs marker := by
  induction h with
  | nil => rfl
  | keep c _ ih =>
      simp only [eligible, List.filter_cons] at ih ⊢
      rw [ih]
  | remove hc _ ih =>
      simp only [eligible, List.filter_cons, hc] at ih ⊢
      exact ih
  | change hc hd _ ih =>
      simp only [eligible, List.filter_cons, hc, hd] at ih ⊢
      exact ih

theorem removeAll (cameras : List Camera) :
    ExcludedEdits marker cameras (eligible cameras marker) := by
  induction cameras with
  | nil => exact nil
  | cons c rest ih =>
      rw [eligible, List.filter_cons]
      cases hc : isExcluded marker c with
      | false => exact keep c ih
      | true => exact remove hc ih

end ExcludedEdits

/-! ### Runs -/

/-- The log of a run behind the notices about excluded cameras. -/
def runLog (x : Compiler) (inputs : Inputs) (count : Nat) : Log :=
  (inTurn (roundStretch x inputs.workloads (eligible inputs.cameras x.settings.excludeWorkload)) 0
    (List.range count)).log

theorem compile_log (x : Compiler) (inputs : Inputs) (count : Nat) :
    (compile x inputs count).2 =
      exclusionLog inputs.cameras x.settings.excludeWorkload ++ runLog x inputs count := rfl

section SameCameras

-- Two inputs with the same workloads and the same cameras that count.
variable {x : Compiler} {a b : Inputs} (hworkloads : a.workloads = b.workloads)
  (hcameras : eligible a.cameras x.settings.excludeWorkload =
    eligible b.cameras x.settings.excludeWorkload)

include hworkloads hcameras

theorem roundBranches_congr : roundBranches x a = roundBranches x b := by
  rw [roundBranches, roundBranches, placedCameras, placedCameras, hworkloads, hcameras]

theorem compile_graph_congr (count : Nat) : (compile x a count).1 = (compile x b count).1 := by
  simp only [compile, hworkloads, hcameras]

theorem runLog_congr (count : Nat) : runLog x a count = runLog x b count := by
  rw [runLog, runLog, hworkloads, hcameras]

end SameCameras

/-- **Exclusion.** The cameras that count are, in order, those none of whose names is the marker when
blanks around them and case do not matter. To leave out all others is an edit of excluded cameras. And
every such edit keeps the branches of a round with their positions, the graph, its command in either
layout, and the log behind the notices, of which there is one for each excluded camera. -/
theorem excluded_without_influence (x : Compiler) (inputs : Inputs) (count : Nat) :
    let marker := x.settings.excludeWorkload
    (eligible inputs.cameras marker = inputs.cameras.filter fun c =>
      ∀ name ∈ c.workloads.names, Text.lower (Text.trim name) ≠ Text.lower (Text.trim marker)) ∧
    ExcludedEdits marker inputs.cameras (eligible inputs.cameras marker) ∧
    ∀ cameras, ExcludedEdits marker inputs.cameras cameras →
      let edited : Inputs := { inputs with cameras }
      roundBranches x edited = roundBranches x inputs ∧
      (compile x edited count).1 = (compile x inputs count).1 ∧
      (∀ layout, (compile x edited count).1.command layout =
        (compile x inputs count).1.command layout) ∧
      ∃ log, (compile x inputs count).2 = exclusionLog inputs.cameras marker ++ log ∧
        (compile x edited count).2 = exclusionLog cameras marker ++ log := by
  intro marker
  refine ⟨eligible_eq_filter inputs.cameras, .removeAll inputs.cameras, ?_⟩
  intro cameras h edited
  have hkept : eligible edited.cameras marker = eligible inputs.cameras marker := h.eligible_eq.symm
  have hgraph : (compile x edited count).1 = (compile x inputs count).1 :=
    compile_graph_congr (a := edited) (b := inputs) rfl hkept count
  have hround : roundBranches x edited = roundBranches x inputs :=
    roundBranches_congr (a := edited) (b := inputs) rfl hkept
  refine ⟨hround, hgraph, fun layout => by rw [hgraph], runLog x inputs count,
    compile_log x inputs count, ?_⟩
  rw [compile_log, runLog_congr (a := edited) (b := inputs) rfl hkept]

/-- One excluded camera is taken out, another one gets an id, a region and a name of the same
workload. -/
theorem excluded_without_influence_renamed :
    let x : Compiler := ⟨Settings.ofEnvironment (fun _ => none) "0", ⟨"/m", "/v"⟩, {}⟩
    let kept : Camera := { cameraId := some "a", workloads := .one "w" }
    let map : WorkloadMap := ⟨[("w", [{ kind := .detect }])]⟩
    let inputs : Inputs :=
      ⟨[{ workloads := .many ["w", " LP_VLM\t"] }, { workloads := .one "lp_vlm" }, kept], map⟩
    let edited : Inputs :=
      ⟨[{ cameraId := some "b", region := some {}, workloads := .many ["Lp_Vlm"] }, kept], map⟩
    ExcludedEdits x.settings.excludeWorkload inputs.cameras edited.cameras ∧
      (compile x edited 2).1 = (compile x inputs 2).1 := by
  intro x kept map inputs edited
  have hedits : ExcludedEdits x.settings.excludeWorkload inputs.cameras edited.cameras := by
    refine .change ?_ ?_ (.remove ?_ (.keep kept .nil)) <;> decide +kernel
  exact ⟨hedits, ((excluded_without_influence x inputs 2).2.2 _ hedits).2.1⟩

end CameraGraph.Graph
