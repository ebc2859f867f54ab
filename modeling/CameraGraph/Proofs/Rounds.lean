import CameraGraph.Proofs.Allocation
import CameraGraph.Launch

/-!
# CameraGraph.Proofs.Rounds

What the rounds of a run have in common, and what sets them apart.

A run is built from parts that go on where the last number was left. `Compiles` says of a part which
branches it compiles and what it says, for any number it starts after; parts in turn compile their
branches in turn (`inTurn_compiles`). Cameras, rounds and runs are three uses of that: the branches of
a run are those of its cameras over and over, and only the numbers tell the rounds apart. A run of
more rounds therefore starts like a run of fewer, down to the text of its command.
-/

namespace CameraGraph.Graph

/-! ### Parts of a run -/

/-- A part that compiles the branches `bs` and says `log`, whatever number it starts after. -/
structure Compiles (x : Compiler) (part : Nat → Stretch) (bs : List Branch) (log : Log) : Prop where
  /-- Its branches are compiled in order. -/
  branches : ∀ last, (part last).branches = (x.compileAll last bs).1
  /-- It takes their numbers and no others. -/
  last : ∀ last, (part last).last = last + totalNumbers bs
  /-- Its log does not depend on numbers. -/
  log : ∀ last, (part last).log = log

/-- Parts in turn compile their branches in turn. -/
theorem inTurn_compiles {x : Compiler} {α : Type} {part : α → Nat → Stretch}
    {bs : α → List Branch} {log : α → Log} (h : ∀ a, Compiles x (part a) (bs a) (log a))
    (as : List α) :
    Compiles x (fun last => inTurn part last as) (as.flatMap bs) (as.flatMap log) := by
  induction as with
  | nil => exact ⟨fun _ => rfl, fun _ => rfl, fun _ => rfl⟩
  | cons a rest ih =>
      refine ⟨fun last => ?_, fun last => ?_, fun last => ?_⟩
      · simp only [inTurn, List.flatMap_cons]
        rw [x.compileAll_append, (h a).branches, (h a).last, ih.branches]
      · simp only [inTurn, List.flatMap_cons]
        rw [ih.last, (h a).last, totalNumbers_append, Nat.add_assoc]
      · simp only [inTurn, List.flatMap_cons]
        rw [(h a).log, ih.log]

/-- The branches of a camera at a position. -/
def cameraGrouping (x : Compiler) (map : WorkloadMap) (c : Camera × Nat) : Grouping :=
  Grouping.ofCamera x.settings x.layout c.2 c.1 c.1.workloads.normalized map

/-- What a camera says in a round. -/
def cameraLog (x : Compiler) (map : WorkloadMap) (round : Nat) (c : Camera × Nat) : Log :=
  (cameraStretch x map round c 0).log

theorem cameraLog_eq (x : Compiler) (map : WorkloadMap) (round : Nat) (c : Camera × Nat) :
    cameraLog x map round c =
      (cameraGrouping x map c).log ++
        .detail .graph ("round " ++ natText (round + 1) ++ ": camera " ++ idText c.1 ++ " -> " ++
          natText (cameraGrouping x map c).branches.length ++ " branch(es) from " ++
          natText c.1.workloads.normalized.length ++ " workload(s)") ::
        (cameraGrouping x map c).branches.flatMap x.branchLog := rfl

theorem cameraStretch_compiles (x : Compiler) (map : WorkloadMap) (round : Nat) (c : Camera × Nat) :
    Compiles x (cameraStretch x map round c) (cameraGrouping x map c).branches
      (cameraLog x map round c) :=
  ⟨fun _ => rfl, fun last => x.compileAll_last last _, fun _ => rfl⟩

/-! ### Rounds -/

/-- The cameras of a run with their positions. -/
def placedCameras (x : Compiler) (inputs : Inputs) : List (Camera × Nat) :=
  (eligible inputs.cameras x.settings.excludeWorkload).zipIdx

/-- The branches of one round: those of all cameras that are not excluded, in document order. -/
def roundBranches (x : Compiler) (inputs : Inputs) : List Branch :=
  (placedCameras x inputs).flatMap fun c => (cameraGrouping x inputs.workloads c).branches

/-- The warnings of one round. -/
def roundWarnings (x : Compiler) (inputs : Inputs) : Log :=
  (placedCameras x inputs).flatMap fun c =>
    let g := cameraGrouping x inputs.workloads c
    g.log.warnings ++ Log.warnings (g.branches.flatMap x.branchLog)

theorem roundStretch_compiles (x : Compiler) (inputs : Inputs) (round : Nat) :
    Compiles x
      (roundStretch x inputs.workloads (eligible inputs.cameras x.settings.excludeWorkload) round)
      (roundBranches x inputs)
      ((placedCameras x inputs).flatMap (cameraLog x inputs.workloads round)) :=
  inTurn_compiles (cameraStretch_compiles x inputs.workloads round) _

/-- Only details name the round. -/
theorem warnings_cameraLog (x : Compiler) (map : WorkloadMap) (round : Nat) (c : Camera × Nat) :
    (cameraLog x map round c).warnings =
      (cameraGrouping x map c).log.warnings ++
        Log.warnings ((cameraGrouping x map c).branches.flatMap x.branchLog) := by
  simp only [cameraLog, cameraStretch, Log.warnings_append, Log.warnings_detail]
  rfl

theorem warnings_roundLog (x : Compiler) (inputs : Inputs) (round : Nat) :
    Log.warnings ((placedCameras x inputs).flatMap (cameraLog x inputs.workloads round)) =
      roundWarnings x inputs := by
  simp only [Log.warnings_flatMap, roundWarnings, warnings_cameraLog]

/-! ### Repetition -/

/-- A list over and over. -/
def copies {α : Type} (n : Nat) (l : List α) : List α := (List.replicate n l).flatten

theorem flatMap_range_eq_copies {α : Type} (n : Nat) (l : List α) :
    ((List.range n).flatMap fun _ => l) = copies n l := by
  rw [copies, List.flatMap_def, List.map_const', List.length_range]

theorem copies_add {α : Type} (n m : Nat) (l : List α) :
    copies (n + m) l = copies n l ++ copies m l := by
  rw [copies, ← List.replicate_append_replicate, List.flatten_append]
  rfl

theorem length_copies {α : Type} (n : Nat) (l : List α) : (copies n l).length = n * l.length := by
  induction n with
  | zero => simp [copies]
  | succ n ih => rw [copies_add, List.length_append, ih, Nat.succ_mul]; simp [copies]

theorem totalNumbers_copies (n : Nat) (bs : List Branch) :
    totalNumbers (copies n bs) = n * totalNumbers bs := by
  induction n with
  | zero => simp [copies]
  | succ n ih => rw [copies_add, totalNumbers_append, ih, Nat.succ_mul]; simp [copies]

theorem mem_of_mem_copies {α : Type} {n : Nat} {l : List α} {a : α} (h : a ∈ copies n l) : a ∈ l := by
  obtain ⟨l', hl', ha⟩ := List.mem_flatten.mp h
  rwa [List.eq_of_mem_replicate hl'] at ha

/-- The copy after the first `r`, cut before its `j`-th item. -/
theorem copies_cut {α : Type} {n r j : Nat} {l : List α} {a : α} (hr : r < n)
    (hj : l[j]? = some a) :
    ∃ rest, copies n l = (copies r l ++ l.take j) ++ a :: rest := by
  obtain ⟨hlt, rfl⟩ := List.getElem?_eq_some_iff.mp hj
  refine ⟨l.drop (j + 1) ++ copies (n - r - 1) l, ?_⟩
  have hone : copies 1 l = l.take j ++ l[j] :: l.drop (j + 1) := by
    rw [← List.drop_eq_getElem_cons hlt, List.take_append_drop]
    simp [copies]
  calc copies n l = copies (r + (1 + (n - r - 1))) l := by rw [show r + (1 + (n - r - 1)) = n by omega]
    _ = copies r l ++ (copies 1 l ++ copies (n - r - 1) l) := by rw [copies_add, copies_add]
    _ = _ := by rw [hone]; simp only [List.append_assoc, List.cons_append]

/-! ### Runs -/

theorem run_compiles (x : Compiler) (inputs : Inputs) (count : Nat) :
    Compiles x
      (fun last => inTurn (roundStretch x inputs.workloads
        (eligible inputs.cameras x.settings.excludeWorkload)) last (List.range count))
      (copies count (roundBranches x inputs))
      ((List.range count).flatMap fun round =>
        (placedCameras x inputs).flatMap (cameraLog x inputs.workloads round)) := by
  rw [← flatMap_range_eq_copies]
  exact inTurn_compiles (roundStretch_compiles x inputs) _

/-- The branches of a run are those of one round over and over, numbered from one on. -/
theorem compile_branches (x : Compiler) (inputs : Inputs) (count : Nat) :
    (compile x inputs count).1.branches =
      (x.compileAll 0 (copies count (roundBranches x inputs))).1 :=
  (run_compiles x inputs count).branches 0

/-- A run in full: its branches and its log are those of its rounds. -/
theorem compile_eq (x : Compiler) (inputs : Inputs) (count : Nat) :
    compile x inputs count =
      (⟨x.settings.gstDebug, x.settings.gstTracers,
          (x.compileAll 0 (copies count (roundBranches x inputs))).1⟩,
        exclusionLog inputs.cameras x.settings.excludeWorkload ++
          (List.range count).flatMap fun round =>
            (placedCameras x inputs).flatMap (cameraLog x inputs.workloads round)) := by
  have hrun := run_compiles x inputs count
  rw [← hrun.branches 0, ← hrun.log 0]
  rfl

theorem mem_compile_branches {x : Compiler} {inputs : Inputs} {count : Nat} {c : CompiledBranch}
    (h : c ∈ (compile x inputs count).1.branches) :
    ∃ b ∈ roundBranches x inputs, ∃ last, c = (x.compile b last).1 := by
  rw [compile_branches] at h
  obtain ⟨b, hb, last, hc⟩ := x.mem_compileAll h
  exact ⟨b, mem_of_mem_copies hb, last, hc⟩

theorem compile_branches_length (x : Compiler) (inputs : Inputs) (count : Nat) :
    (compile x inputs count).1.branches.length = count * (roundBranches x inputs).length := by
  rw [compile_branches, x.compileAll_length, length_copies]

/-- **Numbers.** A branch of a round starts from the numbers of the rounds and branches before it. -/
theorem compile_branches_getElem? (x : Compiler) (inputs : Inputs) {count r j : Nat} {b : Branch}
    (hr : r < count) (hj : (roundBranches x inputs)[j]? = some b) :
    (compile x inputs count).1.branches[r * (roundBranches x inputs).length + j]? =
      some (x.compile b (r * totalNumbers (roundBranches x inputs) +
        totalNumbers ((roundBranches x inputs).take j))).1 := by
  obtain ⟨hlt, -⟩ := List.getElem?_eq_some_iff.mp hj
  obtain ⟨rest, hcut⟩ := copies_cut hr hj
  have hlength : (copies r (roundBranches x inputs) ++ (roundBranches x inputs).take j).length =
      r * (roundBranches x inputs).length + j := by
    rw [List.length_append, length_copies, List.length_take, Nat.min_eq_left (Nat.le_of_lt hlt)]
  rw [compile_branches, hcut, ← hlength, x.compileAll_getElem?, totalNumbers_append,
    totalNumbers_copies, Nat.zero_add]

/-- Excluded cameras give rise to notices only. -/
theorem warnings_exclusionLog (cameras : List Camera) (marker : String) :
    (exclusionLog cameras marker).warnings = [] := by
  unfold exclusionLog
  induction cameras.filter (isExcluded marker) with
  | nil => rfl
  | cons c rest ih => rw [List.map_cons, Log.warnings_notice, ih]

/-- **Warnings.** Every round warns of the same. -/
theorem compile_warnings (x : Compiler) (inputs : Inputs) (count : Nat) :
    (compile x inputs count).2.warnings = copies count (roundWarnings x inputs) := by
  have hlog := (run_compiles x inputs count).log 0
  simp only [compile, Log.warnings_append, warnings_exclusionLog, List.nil_append]
  rw [hlog, Log.warnings_flatMap]
  simp only [warnings_roundLog]
  exact flatMap_range_eq_copies count _

/-! ### Commands -/

/-- Further branches only lengthen a command. -/
theorem command_append (g : Graph) (more : List CompiledBranch) (layout : Layout) :
    ∃ rest, { g with branches := g.branches ++ more }.command layout = g.command layout ++ rest := by
  obtain ⟨added, hadded⟩ : ∃ added,
      { g with branches := g.branches ++ more }.lines layout = g.lines layout ++ added := by
    cases layout with
    | compact => exact ⟨more.map compactLine, by simp [lines, header]⟩
    | multiline => exact ⟨more.flatMap elementLines, by simp [lines, header]⟩
  -- Lines are joined, so what comes first of the further ones is the text between two lines.
  have hne : g.lines layout ≠ [] := by cases layout <;> exact List.cons_ne_nil _ _
  rw [command, command, hadded]
  cases added with
  | nil => exact ⟨"", by rw [List.append_nil, String.append_empty]⟩
  | cons line rest =>
      refine ⟨" \\\n" ++ " \\\n".intercalate (line :: rest), ?_⟩
      rw [String.intercalate_append_of_ne_nil hne (List.cons_ne_nil _ _), String.append_assoc]

/-- A run of more rounds starts with the branches of a run of fewer. -/
theorem compile_branches_add (x : Compiler) (inputs : Inputs) (n k : Nat) :
    ∃ more, (compile x inputs (n + k)).1 =
      { (compile x inputs n).1 with branches := (compile x inputs n).1.branches ++ more } := by
  refine ⟨(x.compileAll (0 + totalNumbers (copies n (roundBranches x inputs)))
    (copies k (roundBranches x inputs))).1, ?_⟩
  rw [compile_branches x inputs n, ← x.compileAll_append, ← copies_add, ← compile_branches]
  rfl

/-- **Prefix.** The command for fewer rounds starts the command for more. -/
theorem compile_command_le (x : Compiler) (inputs : Inputs) (layout : Layout) {n m : Nat}
    (h : n ≤ m) :
    ∃ rest, (compile x inputs m).1.command layout =
      (compile x inputs n).1.command layout ++ rest := by
  obtain ⟨k, rfl⟩ := Nat.exists_eq_add_of_le h
  obtain ⟨more, hmore⟩ := compile_branches_add x inputs n k
  rw [hmore]
  exact command_append _ more layout

/-! ### The law of repetition -/

/-- **Repetition.** With the branches `bs` of one round, and `start r j` the numbers of the rounds
before the `r`-th and of the branches before the `j`-th:

* a run of `n` rounds has `n` times as many branches as a round;
* the `j`-th branch of the `r`-th round is compiled from `start r j`: its source has the next number,
  its detections have the following ones in step order, its junction has the last;
* every round warns of the same;
* in either layout, the command for fewer rounds starts the command for more. -/
theorem run_repeats (x : Compiler) (inputs : Inputs) :
    let bs := roundBranches x inputs
    let start := fun r j => r * totalNumbers bs + totalNumbers (bs.take j)
    (∀ n, (compile x inputs n).1.branches.length = n * bs.length) ∧
    (∀ n r j b, r < n → bs[j]? = some b →
      (compile x inputs n).1.branches[r * bs.length + j]? = some (x.compile b (start r j)).1 ∧
      (x.compile b (start r j)).1.names =
        b.sourceName (start r j + 1) ::
          b.detectors.mapIdx (fun i s => s.detectorName (start r j + 2 + i)) ++
          [b.teeName (start r j + b.numbers), b.counterName (start r j + b.numbers)] ∧
      (x.compile b (start r j)).1.junction.name = b.teeName (start r j + b.numbers) ∧
      (x.compile b (start r j)).2 = start r j + b.numbers) ∧
    (∀ n, (compile x inputs n).2.warnings = copies n (roundWarnings x inputs)) ∧
    (∀ n m layout, n ≤ m → ∃ rest, (compile x inputs m).1.command layout =
      (compile x inputs n).1.command layout ++ rest) := by
  intro bs start
  refine ⟨compile_branches_length x inputs, ?_, compile_warnings x inputs, ?_⟩
  · intro n r j b hr hj
    exact ⟨compile_branches_getElem? x inputs hr hj, x.compile_names b _,
      x.compile_junction_name b _, x.compile_last b _⟩
  · intro n m layout h
    exact compile_command_le x inputs layout h

/-- The second round over a camera with one detection starts after the three numbers of the first. -/
theorem run_repeats_second_round :
    let x : Compiler := ⟨Settings.ofEnvironment (fun _ => none) "0", ⟨"/m", "/v"⟩, {}⟩
    let inputs : Inputs :=
      ⟨[{ cameraId := some "a", workloads := .one "w" }], ⟨[("w", [{ kind := .detect }])]⟩⟩
    let b : Branch :=
      { cameraIndex := 0, signatureIndex := 0, signature := .ofSteps [{ kind := .detect }],
        source := .stream "rtsp://rtsp-streamer:8554/a" "a",
        steps := [⟨{ kind := .detect }, "w", "a"⟩], workloads := ["w"] }
    roundBranches x inputs = [b] ∧
      (compile x inputs 2).1.branches[1]? = some (x.compile b 3).1 ∧
      (x.compile b 3).1.names = ["a_4", "a_w_5", "t1_1_6", "stream1_1_6"] ∧
      ∃ rest, (compile x inputs 2).1.command .compact =
        (compile x inputs 1).1.command .compact ++ rest := by
  intro x inputs b
  have hround : roundBranches x inputs = [b] := by decide +kernel
  obtain ⟨-, hbranches, -, hprefix⟩ := run_repeats x inputs
  rw [hround] at hbranches
  obtain ⟨hsecond, hnames, -, -⟩ := hbranches 2 1 0 b (by decide) rfl
  have htexts : (x.compile b 3).1.names = ["a_4", "a_w_5", "t1_1_6", "stream1_1_6"] :=
    hnames.trans (by decide +kernel)
  exact ⟨hround, hsecond, htexts, hprefix 1 2 .compact (by decide)⟩

end CameraGraph.Graph
