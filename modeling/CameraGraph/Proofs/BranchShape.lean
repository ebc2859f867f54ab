import CameraGraph.Proofs.Allocation
import CameraGraph.Proofs.WorkloadGrouping

/-!
# CameraGraph.Proofs.BranchShape

What of a branch is decided by its signature.

The shape of a compiled branch is the sequence of factories along its chain and along each of its
legs. The factories of a stage depend on its kind alone (`StepKind.factories`), and whether a queue
stands between two stages depends on the former of them, never on what stands in front of all stages.
So the factories of a chain are those of its front, of its kinds (`stageFactories`) and of its end
(`Compiler.compile_chain_factories`). All of that is made of what a signature holds, but for the two
elements that attach regions: they are part of the front exactly when some step has a region, and no
signature tells.
-/

namespace CameraGraph

/-! ### Stages -/

namespace StepKind

/-- The factories of the elements that a step becomes. -/
def factories : StepKind → List String
  | detect => ["gvadetect", "gvatrack", "queue"]
  | classify => ["gvaclassify", "queue"]
  | inference => ["gvainference"]
  | transform => ["gvapython", "queue"]
  | utility u => [u.factory]
  | unknown name => [name]

theorem factories_ne_nil (k : StepKind) : k.factories ≠ [] := by
  cases k <;> exact List.cons_ne_nil _ _

/-- What stands between a step and the next one: a queue, unless the step ends in one. -/
def separator (k : StepKind) : List String :=
  if k.factories.getLast? = some "queue" then [] else ["queue"]

end StepKind

/-- The factories of the stages behind a step. -/
def followingFactories (previous : StepKind) : List StepKind → List String
  | [] => []
  | k :: rest => previous.separator ++ k.factories ++ followingFactories k rest

/-- The factories of the stages of a branch, with the queues between them. -/
def stageFactories : List StepKind → List String
  | [] => []
  | k :: rest => k.factories ++ followingFactories k rest

theorem getLast?_any_isQueue (es : List Element) :
    es.getLast?.any Element.isQueue = decide ((es.map Element.factory).getLast? = some "queue") := by
  rw [List.getLast?_map]
  cases es.getLast? with
  | none => rfl
  | some e => simp [Element.isQueue, beq_eq_decide]

namespace Compiler

variable (x : Compiler) (p : Place)

@[simp] theorem factory_withModel (e : Element) (step : Step) :
    (x.withModel e step).factory = e.factory := by
  simp [withModel]

@[simp] theorem factory_detector (n : Nat) (b : BoundStep) :
    (x.detector p n b).factory = "gvadetect" := by
  unfold detector
  cases b.step.region <;> simp

@[simp] theorem factory_classifier (b : BoundStep) : (x.classifier p b).factory = "gvaclassify" := by
  simp [classifier]

theorem stage_factories (last : Nat) (b : BoundStep) :
    (x.stage p last b).1.map Element.factory = b.step.kind.factories := by
  unfold stage
  cases b.step.kind <;> simp [allocate, StepKind.factories]

/-- A chain ends in what its last stage ends in: no stage is without elements. -/
theorem getLast?_append_stage (chain : List Element) (last : Nat) (b : BoundStep) :
    ((chain ++ (x.stage p last b).1).map Element.factory).getLast? =
      b.step.kind.factories.getLast? := by
  rw [List.map_append, stage_factories,
    List.getLast?_append_of_ne_nil _ b.step.kind.factories_ne_nil]

/-- Behind a chain that ends like the stage `k`, stages follow as they do behind `k`. -/
theorem addStages_factories {k : StepKind} {chain : List Element}
    (hend : (chain.map Element.factory).getLast? = k.factories.getLast?) (last : Nat)
    (steps : List BoundStep) :
    (x.addStages p chain false last steps).1.map Element.factory =
      chain.map Element.factory ++ followingFactories k (steps.map (·.step.kind)) := by
  induction steps generalizing k chain last with
  | nil => simp [addStages, followingFactories]
  | cons b rest ih =>
      have hspaced : (if false || chain.getLast?.any Element.isQueue then chain
          else chain ++ [.queue]).map Element.factory = chain.map Element.factory ++ k.separator := by
        rw [Bool.false_or, getLast?_any_isQueue, hend, StepKind.separator]
        by_cases hqueue : k.factories.getLast? = some "queue" <;> simp [hqueue]
      simp only [addStages]
      rw [ih (x.getLast?_append_stage p _ last b), List.map_append, hspaced, stage_factories]
      simp only [List.map_cons, followingFactories, List.append_assoc]

/-- The first stage follows the front of the chain without a queue, whatever the front ends in. -/
theorem addStages_front_factories (front : List Element) (last : Nat) (steps : List BoundStep) :
    (x.addStages p front true last steps).1.map Element.factory =
      front.map Element.factory ++ stageFactories (steps.map (·.step.kind)) := by
  cases steps with
  | nil => simp [addStages, stageFactories]
  | cons b rest =>
      simp only [addStages, Bool.true_or, if_true]
      rw [x.addStages_factories p (x.getLast?_append_stage p _ last b), List.map_append,
        stage_factories]
      simp only [List.map_cons, stageFactories, List.append_assoc]

end Compiler

/-! ### Sources and regions -/

/-- The factories of the elements of a source. -/
def Source.factories : Source → List String
  | .stream _ _ => ["rtspsrc", "rtph264depay", "h264parse", "queue"]
  | .file _ _ => ["filesrc"]

theorem Compiler.sourceElements_factories (x : Compiler) (last : Nat) (source : Source) :
    (x.sourceElements last source).1.map Element.factory = source.factories := by
  cases source <;> simp [sourceElements, allocate, Source.factories]

namespace Region

theorem foldl_distinct_append (kept regions : List Region) :
    ∃ more, regions.foldl (fun kept r => if kept.any (·.same r) then kept else kept ++ [r]) kept =
      kept ++ more := by
  induction regions generalizing kept with
  | nil => exact ⟨[], (List.append_nil kept).symm⟩
  | cons r rest ih =>
      rw [List.foldl_cons]
      split
      · exact ih kept
      · obtain ⟨more, hmore⟩ := ih (kept ++ [r])
        exact ⟨r :: more, by rw [hmore, List.append_assoc]; rfl⟩

theorem distinct_eq_nil_iff (regions : List Region) : distinct regions = [] ↔ regions = [] := by
  constructor
  · intro h
    cases regions with
    | nil => rfl
    | cons r rest =>
        obtain ⟨more, hmore⟩ := foldl_distinct_append [r] rest
        have hfirst : distinct (r :: rest) = [r] ++ more := hmore
        rw [hfirst] at h
        exact absurd h (List.cons_ne_nil _ _)
  · rintro rfl
    rfl

end Region

namespace Compiler

/-- Whether some step is restricted to a region. -/
def hasRegion (steps : List BoundStep) : Bool := steps.any (·.step.region.isSome)

theorem regionsOf_eq_nil_iff (steps : List BoundStep) :
    regionsOf steps = [] ↔ hasRegion steps = false := by
  rw [regionsOf, Region.distinct_eq_nil_iff, List.filterMap_eq_nil_iff, hasRegion,
    List.any_eq_false]
  simp only [Bool.not_eq_true, Option.isSome_eq_false_iff, Option.isNone_iff_eq_none]

/-- The factories of what attaches regions, if there are any. -/
def attachFactories (attach : Bool) : List String :=
  if attach then ["gvaattachroi", "queue"] else []

theorem attachRegions_factories (steps : List BoundStep) :
    (attachRegions (regionsOf steps)).map Element.factory = attachFactories (hasRegion steps) := by
  cases hregion : hasRegion steps with
  | false =>
      rw [(regionsOf_eq_nil_iff steps).mpr hregion]
      rfl
  | true =>
      have hne : regionsOf steps ≠ [] := fun h => by
        rw [regionsOf_eq_nil_iff, hregion] at h
        exact Bool.noConfusion h
      simp [attachRegions_eq hne, attachFactories]

variable (x : Compiler)

/-! ### Whole branches -/

/-- The factory of the element that decodes frames, by the device of the first step. -/
def decoder (device : Option String) : String :=
  device.elim "decodebin" fun d => (x.profiles.tuning d).decode

/-- The factories of the end of a chain, by whether some step runs a script. -/
def endFactories (transform : Bool) : List String :=
  if transform then ["tee"] else ["gvametaconvert", "tee"]

/-- **Chain.** The factories from the source to the tee. -/
theorem compile_chain_factories (b : Branch) (last : Nat) :
    (x.compile b last).1.chain.map Element.factory =
      ((x.sourceElements last b.source).1.map Element.factory ++
        [x.decoder (firstDevice b.steps)]) ++ attachFactories (hasRegion b.steps) ++
        (stageFactories (b.steps.map (·.step.kind)) ++ endFactories (hasTransform b.steps)) := by
  simp only [compile, List.map_append, addStages_front_factories, attachRegions_factories,
    endFactories]
  cases hasTransform b.steps <;> simp [decoder]

/-- **Junction.** The tee and the legs, under the last number of the branch. -/
theorem compile_junction (b : Branch) (last : Nat) :
    (x.compile b last).1.junction =
      { name := b.teeName (last + b.numbers)
        legs := [x.countingLeg b.place (last + b.numbers) (hasTransform b.steps), measuringLeg] ++
          (if x.settings.render then [showingLeg (firstDevice b.steps)] else []) } := by
  simp only [compile, sourceElements_last, allocate, lastStage_succ]
  rfl

theorem countingLeg_ne_nil (p : Place) (n : Nat) (transform : Bool) :
    x.countingLeg p n transform ≠ [] := by
  cases transform <;> exact List.cons_ne_nil _ _

theorem mem_compile_legs {b : Branch} {last : Nat} {leg : List Element} :
    leg ∈ (x.compile b last).1.junction.legs ↔
      leg = x.countingLeg b.place (last + b.numbers) (hasTransform b.steps) ∨ leg = measuringLeg ∨
        x.settings.render = true ∧ leg = showingLeg (firstDevice b.steps) := by
  rw [x.compile_junction]
  cases x.settings.render <;> simp

theorem compile_legs_ne_nil (b : Branch) (last : Nat) :
    ∀ leg ∈ (x.compile b last).1.junction.legs, leg ≠ [] := by
  intro leg hleg
  rcases x.mem_compile_legs.mp hleg with rfl | rfl | ⟨-, rfl⟩
  · exact x.countingLeg_ne_nil _ _ _
  · exact List.cons_ne_nil _ _
  · exact List.append_ne_nil_of_right_ne_nil _ (List.cons_ne_nil _ _)

end Compiler

/-! ### Branches of one signature -/

namespace Branch

open Compiler

variable (a b : Branch)

/-- The steps of a branch without what signatures leave out. -/
def bareSteps : List Step := b.steps.map (·.step.bare)

theorem kinds_eq : b.steps.map (·.step.kind) = b.bareSteps.map (·.kind) := by
  rw [bareSteps, List.map_map]
  rfl

theorem firstDevice_eq : firstDevice b.steps = b.bareSteps.head?.bind (·.device) := by
  rw [bareSteps, List.head?_map, firstDevice]
  cases b.steps.head? <;> rfl

theorem hasTransform_eq : hasTransform b.steps = b.bareSteps.any (·.kind = .transform) := by
  rw [bareSteps, List.any_map]
  rfl

theorem numbers_eq : b.numbers = 2 + (b.bareSteps.filter (·.kind = .detect)).length := by
  rw [numbers, detectors, bareSteps, List.filter_map, List.length_map]
  rfl

/-- Branches at one place, with one source, whose steps agree position by position. -/
structure Alike : Prop where
  place : a.place = b.place
  source : a.source = b.source
  steps : a.bareSteps = b.bareSteps

namespace Alike

variable {a b}

theorem numbers (h : a.Alike b) : a.numbers = b.numbers := by
  rw [a.numbers_eq, b.numbers_eq, h.steps]

theorem transform (h : a.Alike b) : hasTransform a.steps = hasTransform b.steps := by
  rw [a.hasTransform_eq, b.hasTransform_eq, h.steps]

theorem device (h : a.Alike b) : firstDevice a.steps = firstDevice b.steps := by
  rw [a.firstDevice_eq, b.firstDevice_eq, h.steps]

theorem compile_junction (h : a.Alike b) (x : Compiler) (last : Nat) :
    (x.compile a last).1.junction = (x.compile b last).1.junction := by
  rw [x.compile_junction, x.compile_junction, h.numbers, h.transform, h.device, teeName, teeName,
    h.place]

/-- Their chains run through the same factories if both attach regions, or neither does, and not
otherwise. -/
theorem compile_chain_iff (h : a.Alike b) (x : Compiler) (last : Nat) :
    (x.compile a last).1.chain.map Element.factory =
        (x.compile b last).1.chain.map Element.factory ↔
      hasRegion a.steps = hasRegion b.steps := by
  rw [x.compile_chain_factories, x.compile_chain_factories, h.source, h.device, a.kinds_eq,
    b.kinds_eq, h.steps, h.transform]
  -- All but the elements that attach regions is the same on both sides, and cancels.
  rw [List.append_cancel_right_eq, List.append_cancel_left_eq]
  cases hasRegion a.steps <;> cases hasRegion b.steps <;> simp [attachFactories]

end Alike

end Branch

namespace CameraSite

variable (site : CameraSite)

theorem opened_bareSteps (map : WorkloadMap) (i : Nat) (name : String) :
    (site.opened map i name).bareSteps = (map.stepsOf name).map Step.bare := by
  rw [Branch.bareSteps, opened, bind, List.map_map]
  rfl

theorem opened_alike {map map' : WorkloadMap} (hmap : map.Named) (hmap' : map'.Named)
    {m n : String} (h : map.signatureOf m = map'.signatureOf n) (i : Nat) :
    (site.opened map i m).Alike (site.opened map' i n) where
  place := rfl
  source := rfl
  steps := by
    rw [opened_bareSteps, opened_bareSteps, ← Step.forall₂_agrees_iff]
    exact (Signature.ofSteps_eq_iff (hmap.stepsOf m) (hmap'.stepsOf n)).mp h

/-- Whether a region is attached when the steps run for the camera: its own, or one of theirs. -/
def Attaches (steps : List Step) : Prop := ∃ s ∈ steps, (site.restrict s).region.isSome

theorem hasRegion_opened (map : WorkloadMap) (i : Nat) (name : String) :
    Compiler.hasRegion (site.opened map i name).steps = true ↔
      site.Attaches (map.stepsOf name) := by
  simp [Compiler.hasRegion, opened, bind, Attaches]

end CameraSite

/-- **Shape.** For every camera and any two workloads of one signature, from one document or from
two: compiled at one place and from one number, their branches take equally many numbers and have the
same junction, legs included; and their chains run through the same factories exactly if both attach
regions or neither does. -/
theorem Compiler.opened_shape_iff (x : Compiler) (camera : Camera) (index i last : Nat)
    (map map' : WorkloadMap) (hmap : map.Named) (hmap' : map'.Named) (m n : String)
    (h : map.signatureOf m = map'.signatureOf n) :
    let site := CameraSite.ofCamera index camera
      (Source.ofCamera camera x.settings.endpoint x.layout).1
    let a := x.compile (site.opened map i m) last
    let b := x.compile (site.opened map' i n) last
    a.2 = b.2 ∧ a.1.junction = b.1.junction ∧
      (a.1.chain.map Element.factory = b.1.chain.map Element.factory ↔
        (site.Attaches (map.stepsOf m) ↔ site.Attaches (map'.stepsOf n))) := by
  intro site a b
  have halike := site.opened_alike hmap hmap' h i
  refine ⟨?_, halike.compile_junction x last, ?_⟩
  · show (x.compile _ last).2 = (x.compile _ last).2
    rw [x.compile_last, x.compile_last, halike.numbers]
  · rw [halike.compile_chain_iff x last, Bool.eq_iff_iff, site.hasRegion_opened,
      site.hasRegion_opened]

/-- A camera with a region of its own makes up for a region that one of two workloads lacks. -/
theorem Compiler.opened_shape_camera_region :
    let x : Compiler := ⟨Settings.ofEnvironment (fun _ => none) "0", ⟨"/m", "/v"⟩, {}⟩
    let camera : Camera := { cameraId := some "a", region := some {} }
    let site := CameraSite.ofCamera 0 camera
      (Source.ofCamera camera x.settings.endpoint x.layout).1
    let map : WorkloadMap :=
      ⟨[("cropped", [{ kind := .detect, region := some { x := .integer 2 } }]),
        ("whole", [{ kind := .detect, module := some "m.py" }])]⟩
    map.Named ∧ map.signatureOf "cropped" = map.signatureOf "whole" ∧
      (x.compile (site.opened map 0 "cropped") 0).1.chain.map Element.factory =
        (x.compile (site.opened map 0 "whole") 0).1.chain.map Element.factory := by
  intro x camera site map
  have hdetect : StepKind.detect.Named := ⟨"gvadetect", rfl⟩
  have hmap : map.Named := by simp [map, WorkloadMap.Named, hdetect]
  have hsame : map.signatureOf "cropped" = map.signatureOf "whole" := by decide +kernel
  obtain ⟨-, -, hchains⟩ :=
    Compiler.opened_shape_iff x camera 0 0 0 map map hmap hmap "cropped" "whole" hsame
  have hattaches (steps : List Step) (hne : steps ≠ []) : site.Attaches steps := by
    obtain ⟨s, hs⟩ := List.exists_mem_of_ne_nil steps hne
    exact ⟨s, hs, rfl⟩
  have hcropped : site.Attaches (map.stepsOf "cropped") := hattaches _ (by decide +kernel)
  have hwhole : site.Attaches (map.stepsOf "whole") := hattaches _ (by decide +kernel)
  refine ⟨hmap, hsame, ?_⟩
  simp only [site]
  exact hchains.mpr (iff_of_true hcropped hwhole)

/-- Without one, a workload whose step has a region gets two elements more than a workload of the same
signature. -/
theorem Compiler.opened_shape_differs :
    let x : Compiler := ⟨Settings.ofEnvironment (fun _ => none) "0", ⟨"/m", "/v"⟩, {}⟩
    let camera : Camera := { cameraId := some "a" }
    let site := CameraSite.ofCamera 0 camera
      (Source.ofCamera camera x.settings.endpoint x.layout).1
    let step : Step :=
      { kind := .detect, model := some "m", device := some "CPU", precision := some "FP16" }
    let map : WorkloadMap :=
      ⟨[("cropped", [{ step with region := some ⟨.integer 2, .integer 0, .integer 4, .integer 4⟩ }]),
        ("whole", [step])]⟩
    map.signatureOf "cropped" = map.signatureOf "whole" ∧
      (x.compile (site.opened map 0 "cropped") 0).1.chain.map Element.factory =
        ["rtspsrc", "rtph264depay", "h264parse", "queue", "decodebin", "gvaattachroi", "queue",
          "gvadetect", "gvatrack", "queue", "gvametaconvert", "tee"] ∧
      (x.compile (site.opened map 0 "whole") 0).1.chain.map Element.factory =
        ["rtspsrc", "rtph264depay", "h264parse", "queue", "decodebin",
          "gvadetect", "gvatrack", "queue", "gvametaconvert", "tee"] := by
  intro x camera site step map
  refine ⟨?_, ?_, ?_⟩ <;> decide +kernel

end CameraGraph
