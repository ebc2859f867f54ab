import CameraGraph.Proofs.Elements

/-!
# CameraGraph.Proofs.Allocation

Which numbers a branch takes, and where they show.

`Compiler.compile_last` counts them, `Compiler.compile_names` lists every name of a compiled branch
and `Compiler.compile_resultFiles` its result file. Together they say what the numbers do: the source
gets the first, the detections the following ones in the order of their steps, and the last one names
the tee, the frame counter and the result file.
-/

namespace CameraGraph

/-- Whether a step detects, and so takes a number. -/
def BoundStep.detects (b : BoundStep) : Bool := b.step.kind = .detect

/-- The name of a detecting element. -/
def BoundStep.detectorName (b : BoundStep) (n : Nat) : String :=
  ElementName.sanitize (b.cameraId ++ "_" ++ b.workload ++ "_" ++ natText n)

namespace Branch

/-- The steps that detect. -/
def detectors (b : Branch) : List BoundStep := b.steps.filter BoundStep.detects

/-- How many numbers a branch takes. -/
def numbers (b : Branch) : Nat := 2 + b.detectors.length

/-- The name of the source element under the number `n`. -/
def sourceName (b : Branch) (n : Nat) : String := b.source.name ++ "_" ++ natText n

/-- The name of the tee under the number `n`. -/
def teeName (b : Branch) (n : Nat) : String := "t" ++ b.place.text ++ "_" ++ natText n

/-- The name of the frame counter under the number `n`. -/
def counterName (b : Branch) (n : Nat) : String := "stream" ++ b.place.text ++ "_" ++ natText n

end Branch

/-- The result file of a branch under the number `n`. -/
def Compiler.resultFile (x : Compiler) (b : Branch) (n : Nat) : String :=
  x.settings.resultsDir.join ("rs-" ++ b.place.text ++ "__" ++ natText n ++ "_" ++
    x.settings.timestamp ++ ".jsonl")

namespace Compiler

variable (x : Compiler) (p : Place)

/-! ### Stages -/

/-- A model adds no other keys than its own three. -/
theorem values_withModel (e : Element) (step : Step) {key : String} (hmodel : "model" ≠ key)
    (hdevice : "device" ≠ key) (hproc : "model-proc" ≠ key) :
    (x.withModel e step).values key = e.values key := by
  unfold withModel
  rw [Element.values_optionalProp _ _ hproc, Element.values_optionalProp _ _ hdevice]
  simp [hmodel]

theorem values_detector_name (n : Nat) (b : BoundStep) :
    (x.detector p n b).values "name" = [b.detectorName n] := by
  unfold detector BoundStep.detectorName
  cases b.step.region <;> simp [values_withModel]

/-- A step takes a number exactly when it detects. -/
theorem stage_last (last : Nat) (b : BoundStep) :
    (x.stage p last b).2 = last + if b.detects then 1 else 0 := by
  unfold stage BoundStep.detects
  cases b.step.kind <;> simp [allocate]

/-- Of all stages only detections have names. -/
theorem stage_names (last : Nat) (b : BoundStep) :
    chainValues "name" (x.stage p last b).1 =
      if b.detects then [b.detectorName (last + 1)] else [] := by
  unfold stage BoundStep.detects
  cases b.step.kind with
  | detect => simp [allocate, values_detector_name]
  | classify => simp [classifier, values_withModel]
  | inference => simp [values_withModel]
  | transform => simp
  | utility u => simp
  | unknown name => simp

/-- The keys that the elements of steps have, queues apart. -/
def stageKeys : List String :=
  ["model-instance-id", "threshold", "name", "batch-size", "inference-interval", "scale-method",
    "inference-region", "model", "device", "model-proc", "tracking-type", "module", "function"]

theorem stage_values {key : String} (hq : Element.queue.values key = [])
    (hkey : ∀ k ∈ stageKeys, k ≠ key) (last : Nat) (b : BoundStep) :
    chainValues key (x.stage p last b).1 = [] := by
  simp only [stageKeys, List.forall_mem_cons] at hkey
  unfold stage
  cases b.step.kind with
  | detect =>
      unfold allocate detector
      cases b.step.region <;> simp [hq, hkey, values_withModel]
  | classify => simp [classifier, hq, hkey, values_withModel]
  | inference => simp [hkey, values_withModel]
  | transform => simp [hq, hkey]
  | utility u => simp
  | unknown name => simp

/-- The queue between two stages shows in no view that queues do not show in. -/
theorem chainValues_spaced {key : String} (hq : Element.queue.values key = [])
    (chain : List Element) (first : Bool) :
    chainValues key (if first || chain.getLast?.any Element.isQueue then chain
      else chain ++ [.queue]) = chainValues key chain := by
  split
  · rfl
  · simp [hq]

theorem addStages_last (chain : List Element) (first : Bool) (last : Nat) (steps : List BoundStep) :
    (x.addStages p chain first last steps).2 =
      last + (steps.filter BoundStep.detects).length := by
  induction steps generalizing chain first last with
  | nil => rfl
  | cons b rest ih =>
      simp only [addStages]
      rw [ih, stage_last, List.filter_cons]
      split
      · rw [List.length_cons]; omega
      · rw [Nat.add_zero]

/-- Detections are named in the order of their steps, by one number after the other. -/
theorem addStages_names (chain : List Element) (first : Bool) (last : Nat)
    (steps : List BoundStep) :
    chainValues "name" (x.addStages p chain first last steps).1 =
      chainValues "name" chain ++
        (steps.filter BoundStep.detects).mapIdx fun i b => b.detectorName (last + 1 + i) := by
  induction steps generalizing chain first last with
  | nil => simp [addStages]
  | cons b rest ih =>
      simp only [addStages]
      rw [ih, chainValues_append, chainValues_spaced values_queue_name, stage_names, stage_last,
        List.filter_cons]
      split
      · -- A detection moves the numbers of all later ones up by one.
        have hshift : ∀ i, last + 1 + 1 + i = last + 1 + (i + 1) := fun i => by omega
        simp [hshift]
      · simp

theorem addStages_values {key : String} (hq : Element.queue.values key = [])
    (hkey : ∀ k ∈ stageKeys, k ≠ key) (chain : List Element) (first : Bool) (last : Nat)
    (steps : List BoundStep) :
    chainValues key (x.addStages p chain first last steps).1 = chainValues key chain := by
  induction steps generalizing chain first last with
  | nil => rfl
  | cons b rest ih =>
      simp only [addStages]
      rw [ih, chainValues_append, chainValues_spaced hq, x.stage_values p hq hkey, List.append_nil]

/-! ### Sources and regions -/

theorem sourceElements_last (last : Nat) (source : Source) :
    (x.sourceElements last source).2 = last + 1 := by
  cases source <;> rfl

theorem sourceElements_names (last : Nat) (source : Source) :
    chainValues "name" (x.sourceElements last source).1 =
      [source.name ++ "_" ++ natText (last + 1)] := by
  cases source <;> simp [sourceElements, allocate, Source.name]

/-- The keys that the elements of sources have, queues apart. -/
def sourceKeys : List String :=
  ["name", "location", "protocols", "latency", "timeout", "retry", "drop-on-latency",
    "config-interval"]

theorem sourceElements_values {key : String} (hq : Element.queue.values key = [])
    (hkey : ∀ k ∈ sourceKeys, k ≠ key) (last : Nat) (source : Source) :
    chainValues key (x.sourceElements last source).1 = [] := by
  simp only [sourceKeys, List.forall_mem_cons] at hkey
  cases source <;> simp [sourceElements, allocate, hq, hkey]

/-- The element that attaches regions. -/
def attacher (regions : List Region) : Element :=
  regions.foldl (fun e r => e.prop "roi" r.text) (element "gvaattachroi")

theorem attachRegions_eq {regions : List Region} (h : regions ≠ []) :
    attachRegions regions = [attacher regions, .queue] :=
  if_neg (by rwa [List.isEmpty_iff])

theorem foldl_roi_values (e : Element) (regions : List Region) (key : String) :
    (regions.foldl (fun e r => e.prop "roi" r.text) e).values key =
      e.values key ++ if "roi" == key then regions.map Region.text else [] := by
  induction regions generalizing e with
  | nil => simp
  | cons r rest ih =>
      rw [List.foldl_cons, ih, Element.values_prop]
      split <;> simp

theorem attacher_values (regions : List Region) (key : String) :
    (attacher regions).values key = if "roi" == key then regions.map Region.text else [] := by
  rw [attacher, foldl_roi_values, Element.values_element, List.nil_append]

theorem attacher_roi (regions : List Region) :
    (attacher regions).values "roi" = regions.map Region.text := by
  simp [attacher_values]

theorem foldl_roi_factory (e : Element) (regions : List Region) :
    (regions.foldl (fun e r => e.prop "roi" r.text) e).factory = e.factory := by
  induction regions generalizing e with
  | nil => rfl
  | cons r rest ih => rw [List.foldl_cons, ih, Element.factory_prop]

@[simp] theorem attacher_factory (regions : List Region) :
    (attacher regions).factory = "gvaattachroi" :=
  foldl_roi_factory _ regions

/-- Attached regions show in the view of their own key only. -/
theorem chainValues_attachRegions {key : String} (hq : Element.queue.values key = [])
    (hroi : "roi" ≠ key) (regions : List Region) :
    chainValues key (attachRegions regions) = [] := by
  by_cases h : regions = []
  · rw [h]
    rfl
  · simp [attachRegions_eq h, attacher_values, hq, hroi]

/-! ### Legs -/

theorem countingLeg_names (n : Nat) (transform : Bool) :
    chainValues "name" (x.countingLeg p n transform) =
      ["stream" ++ p.text ++ "_" ++ natText n] := by
  unfold countingLeg
  cases transform <;> simp [fakeSink]

theorem measuringLeg_values (key : String) (hq : Element.queue.values key = [])
    (hsink : "video-sink" ≠ key) (hfps : "signal-fps-measurements" ≠ key) :
    chainValues key measuringLeg = [] := by
  simp [measuringLeg, hq, hsink, hfps]

theorem showingLeg_values (device : Option String) (key : String)
    (hq : Element.queue.values key = []) (hsink : "video-sink" ≠ key)
    (htext : "text-overlay" ≠ key) (hfps : "signal-fps-measurements" ≠ key) :
    chainValues key (showingLeg device) = [] := by
  simp only [showingLeg]
  split <;> simp [hq, hsink, htext, hfps]

/-! ### Whole branches -/

variable (b : Branch) (last : Nat)

/-- **Count.** A branch takes a number for its source, one for each detection and one for its
junction. -/
theorem compile_last : (x.compile b last).2 = last + b.numbers := by
  simp only [compile, sourceElements_last, addStages_last, allocate, Branch.numbers,
    Branch.detectors]
  omega

/-- The number of the junction, as the chain leaves it. -/
theorem lastStage_succ (chain : List Element) :
    (x.addStages p chain true (last + 1) b.steps).2 + 1 = last + b.numbers := by
  rw [addStages_last, Branch.numbers, Branch.detectors]
  omega

/-- The last of the numbers of a branch goes to its junction. -/
theorem compile_junction_name :
    (x.compile b last).1.junction.name = b.teeName (last + b.numbers) := by
  simp only [compile, sourceElements_last, allocate, lastStage_succ]
  rfl

theorem compile_chain_names :
    chainValues "name" (x.compile b last).1.chain =
      b.sourceName (last + 1) ::
        b.detectors.mapIdx (fun i s => s.detectorName (last + 2 + i)) ++
        [b.teeName (last + b.numbers)] := by
  simp only [compile, sourceElements_last, allocate, lastStage_succ, chainValues_append,
    addStages_names, sourceElements_names,
    chainValues_attachRegions values_queue_name (by decide : "roi" ≠ "name")]
  cases hasTransform b.steps <;>
    simp [Branch.sourceName, Branch.teeName, Branch.detectors]

theorem compile_legs_names :
    chainValues "name" (x.compile b last).1.junction.legs.flatten =
      [b.counterName (last + b.numbers)] := by
  simp only [compile, sourceElements_last, allocate, lastStage_succ]
  cases x.settings.render <;>
    simp [countingLeg_names, measuringLeg_values, showingLeg_values, Branch.counterName]

/-- **Names.** All names of a compiled branch: the source has the next number, the detections have
the following ones in step order, and the tee and the frame counter share the last one. -/
theorem compile_names :
    (x.compile b last).1.names =
      b.sourceName (last + 1) ::
        b.detectors.mapIdx (fun i s => s.detectorName (last + 2 + i)) ++
        [b.teeName (last + b.numbers), b.counterName (last + b.numbers)] := by
  rw [CompiledBranch.names, CompiledBranch.elements, chainValues_append, compile_chain_names,
    compile_legs_names, List.append_assoc]
  rfl

theorem compile_chain_files : chainValues "file-path" (x.compile b last).1.chain = [] := by
  have hq := values_queue_filePath
  simp only [compile, chainValues_append, x.addStages_values _ hq (by decide),
    x.sourceElements_values hq (by decide), chainValues_attachRegions hq (by decide)]
  cases hasTransform b.steps <;> simp

/-- **Result files.** A branch without a script writes one file, under its last number. -/
theorem compile_resultFiles :
    (x.compile b last).1.resultFiles =
      if hasTransform b.steps then [] else [x.resultFile b (last + b.numbers)] := by
  rw [CompiledBranch.resultFiles, CompiledBranch.elements, List.filter_append, chainValues_append,
    chainValues_filter_eq_nil _ (x.compile_chain_files b last), List.nil_append]
  have hmeasuring := measuringLeg_values "file-path" values_queue_filePath (by decide) (by decide)
  have hshowing := fun device => showingLeg_values device "file-path" values_queue_filePath
    (by decide) (by decide) (by decide)
  simp only [compile, sourceElements_last, allocate, lastStage_succ]
  cases hasTransform b.steps <;> cases x.settings.render <;>
    simp [countingLeg, chainValues_filter_eq_nil _ hmeasuring,
      chainValues_filter_eq_nil _ (hshowing _), fakeSink, resultFile, element]

end Compiler

/-! ### Lists of branches -/

/-- How many numbers branches take together. -/
def totalNumbers : List Branch → Nat
  | [] => 0
  | b :: bs => b.numbers + totalNumbers bs

@[simp] theorem totalNumbers_nil : totalNumbers [] = 0 := rfl

@[simp] theorem totalNumbers_cons (b : Branch) (bs : List Branch) :
    totalNumbers (b :: bs) = b.numbers + totalNumbers bs := rfl

theorem totalNumbers_append (as bs : List Branch) :
    totalNumbers (as ++ bs) = totalNumbers as + totalNumbers bs := by
  induction as with
  | nil => rw [List.nil_append, totalNumbers_nil, Nat.zero_add]
  | cons a rest ih => rw [List.cons_append, totalNumbers_cons, ih, totalNumbers_cons, Nat.add_assoc]

namespace Compiler

variable (x : Compiler)

theorem compileAll_last (last : Nat) (bs : List Branch) :
    (x.compileAll last bs).2 = last + totalNumbers bs := by
  induction bs generalizing last with
  | nil => rfl
  | cons b rest ih =>
      simp only [compileAll]
      rw [ih, compile_last, totalNumbers_cons, Nat.add_assoc]

theorem compileAll_length (last : Nat) (bs : List Branch) :
    (x.compileAll last bs).1.length = bs.length := by
  induction bs generalizing last with
  | nil => rfl
  | cons b rest ih =>
      simp only [compileAll]
      rw [List.length_cons, ih, List.length_cons]

/-- Branches after others start from the last number that those took. -/
theorem compileAll_append (last : Nat) (as bs : List Branch) :
    (x.compileAll last (as ++ bs)).1 =
      (x.compileAll last as).1 ++ (x.compileAll (last + totalNumbers as) bs).1 := by
  induction as generalizing last with
  | nil => rfl
  | cons a rest ih =>
      simp only [List.cons_append, compileAll]
      rw [ih, compile_last, totalNumbers_cons, Nat.add_assoc]

/-- Each branch is compiled from the last number that the branches before it took. -/
theorem compileAll_getElem? (last : Nat) {as : List Branch} {b : Branch} {bs : List Branch} :
    (x.compileAll last (as ++ b :: bs)).1[as.length]? =
      some (x.compile b (last + totalNumbers as)).1 := by
  rw [compileAll_append, ← x.compileAll_length last as, List.getElem?_append_right (Nat.le_refl _),
    Nat.sub_self]
  rfl

/-- Whatever is compiled comes from one of the branches. -/
theorem mem_compileAll {last : Nat} {bs : List Branch} {c : CompiledBranch}
    (h : c ∈ (x.compileAll last bs).1) : ∃ b ∈ bs, ∃ last', c = (x.compile b last').1 := by
  induction bs generalizing last with
  | nil => exact absurd h List.not_mem_nil
  | cons b rest ih =>
      simp only [compileAll] at h
      rcases List.mem_cons.mp h with rfl | h
      · exact ⟨b, List.mem_cons_self, last, rfl⟩
      · obtain ⟨b', hb', last', hc⟩ := ih h
        exact ⟨b', List.mem_cons_of_mem b hb', last', hc⟩

end Compiler

end CameraGraph
