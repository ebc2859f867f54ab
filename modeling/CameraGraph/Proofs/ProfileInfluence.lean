import CameraGraph.Proofs.ChainParts
import CameraGraph.Proofs.Rounds

/-!
# CameraGraph.Proofs.ProfileInfluence

How far device profiles reach into a graph.

A run asks the profile of a step's device for a few keys (`Settings.profileKeys`), two of them only
where the settings leave them open. Two sets of profiles that agree on those keys, for the devices
that steps name, make no difference at all.

Where they do not agree, they still change no more than the texts of elements and the factory of the
one that decodes (`SameButDecoder`). This is so although a queue is put between two stages or not by
looking at the factory that a chain ends in, and although a profile may name any factory for
decoding, `queue` among them: the first stage follows without a queue in any case, and from then on
chains end in elements of stages (`addStages_eq`).
-/

namespace CameraGraph

/-! ### Keys -/

/-- The keys that every run asks profiles for. -/
def Tuning.choiceKeys : List String :=
  ["DECODE", "PRE_PROCESS", "DETECTION_OPTIONS", "PRE_PROCESS_CONFIG",
    "CLASSIFICATION_PRE_PROCESS"]

namespace Settings

/-- The keys that a run with these settings asks profiles for: those that every run does, and a
batch size unless the settings give it. -/
def profileKeys (s : Settings) : List String :=
  Tuning.choiceKeys ++
    (if s.batchSizeDetect.isSome then [] else ["BATCH_SIZE_DETECT"]) ++
    (if s.batchSizeClassify.isSome then [] else ["BATCH_SIZE_CLASSIFY"])

variable (s : Settings)

theorem choiceKeys_subset : Tuning.choiceKeys ⊆ s.profileKeys :=
  List.Subset.trans (List.subset_append_left _ _) (List.subset_append_left _ _)

theorem batchSizeDetect_mem (h : s.batchSizeDetect = none) :
    "BATCH_SIZE_DETECT" ∈ s.profileKeys := by
  simp [profileKeys, h]

theorem batchSizeClassify_mem (h : s.batchSizeClassify = none) :
    "BATCH_SIZE_CLASSIFY" ∈ s.profileKeys := by
  simp [profileKeys, h]

end Settings

namespace Tuning

variable {keys : List String} {t u : Tuning}

/-- Agreement of two profiles on some keys. -/
def AgreeOn (keys : List String) (t u : Tuning) : Prop := ∀ key ∈ keys, t.get key = u.get key

theorem AgreeOn.refl (keys : List String) (t : Tuning) : t.AgreeOn keys t := fun _ _ => rfl

theorem AgreeOn.decode_eq (h : t.AgreeOn keys u) (hkey : "DECODE" ∈ keys) :
    t.decode = u.decode := by
  rw [decode, decode, h _ hkey]

theorem AgreeOn.fragment_eq (h : t.AgreeOn keys u) {key : String} (hkey : key ∈ keys) :
    t.fragment key = u.fragment key := by
  rw [fragment, fragment, h key hkey]

/-- A batch size that the settings give is not asked for. -/
theorem AgreeOn.rawBatchSize_eq (h : t.AgreeOn keys u) {override : Option String} {key : String}
    (hkey : override = none → key ∈ keys) :
    rawBatchSize override t key = rawBatchSize override u key := by
  cases override with
  | none => rw [rawBatchSize, rawBatchSize, h key (hkey rfl)]
  | some raw => rfl

end Tuning

theorem CompiledBranch.eq_of_parts {a b : CompiledBranch} (hchain : a.chain = b.chain)
    (hjunction : a.junction = b.junction) : a = b := by
  cases a
  cases b
  rw [CompiledBranch.mk.injEq]
  exact ⟨hchain, hjunction⟩

namespace Compiler

/-! ### Two compilers -/

variable {x y : Compiler} {p : Place}

/-- Stages that look the same, step by step, and take the same numbers look the same in a chain,
however one looks at elements, if one sees which of them are queues. -/
theorem addStages_congr {α : Type} (view : Element → α)
    (hqueue : ∀ e f, view e = view f → e.isQueue = f.isQueue) {steps steps' : List BoundStep}
    (hstages : List.Forall₂ (fun b c => ∀ last,
      (x.stage p last b).1.map view = (y.stage p last c).1.map view ∧
        (x.stage p last b).2 = (y.stage p last c).2) steps steps')
    {as bs : List Element} (hchains : as.map view = bs.map view) (first : Bool) (last : Nat) :
    (x.addStages p as first last steps).1.map view =
      (y.addStages p bs first last steps').1.map view := by
  induction hstages generalizing as bs first last with
  | nil => exact hchains
  | cons hstage _ ih =>
      have hends : as.getLast?.any Element.isQueue = bs.getLast?.any Element.isQueue := by
        have hlast := congrArg List.getLast? hchains
        rw [List.getLast?_map, List.getLast?_map] at hlast
        cases ha : as.getLast? with
        | none =>
            rw [ha, Option.map_none, eq_comm, Option.map_eq_none_iff] at hlast
            rw [hlast]
        | some e =>
            rw [ha, Option.map_some, eq_comm, Option.map_eq_some_iff] at hlast
            obtain ⟨f, hf, hview⟩ := hlast
            rw [hf, Option.any_some, Option.any_some]
            exact hqueue e f hview.symm
      have hspaced : (if first || as.getLast?.any Element.isQueue then as
            else as ++ [.queue]).map view =
          (if first || bs.getLast?.any Element.isQueue then bs else bs ++ [.queue]).map view := by
        rw [hends]
        split
        · exact hchains
        · rw [List.map_append, List.map_append, hchains]
      obtain ⟨helements, hnumbers⟩ := hstage last
      simp only [addStages, hnumbers]
      refine ih ?_ false _
      rw [List.map_append, List.map_append, hspaced, helements]

/-! ### Profiles that agree -/

section Agreeing

variable (x : Compiler) (q : Profiles)

/-- The same settings and models, other profiles. -/
def withProfiles : Compiler := { x with profiles := q }

theorem withModel_withProfiles (e : Element) (step : Step) :
    (x.withProfiles q).withModel e step = x.withModel e step := rfl

/-- Agreement of two sets of profiles on the device of a step, as far as it is asked for. -/
def AgreeAt (step : Step) : Prop :=
  (x.tuningOf step).AgreeOn x.settings.profileKeys ((x.withProfiles q).tuningOf step)

variable {x q} {b : BoundStep}

theorem AgreeAt.fragment_eq {step : Step} (h : x.AgreeAt q step) {key : String}
    (hkey : key ∈ Tuning.choiceKeys) :
    (x.tuningOf step).fragment key = ((x.withProfiles q).tuningOf step).fragment key :=
  Tuning.AgreeOn.fragment_eq h (x.settings.choiceKeys_subset hkey)

theorem AgreeAt.rawDetect_eq {step : Step} (h : x.AgreeAt q step) :
    rawBatchSize x.settings.batchSizeDetect (x.tuningOf step) "BATCH_SIZE_DETECT" =
      rawBatchSize x.settings.batchSizeDetect ((x.withProfiles q).tuningOf step)
        "BATCH_SIZE_DETECT" :=
  Tuning.AgreeOn.rawBatchSize_eq h x.settings.batchSizeDetect_mem

theorem AgreeAt.rawClassify_eq {step : Step} (h : x.AgreeAt q step) :
    rawBatchSize x.settings.batchSizeClassify (x.tuningOf step) "BATCH_SIZE_CLASSIFY" =
      rawBatchSize x.settings.batchSizeClassify ((x.withProfiles q).tuningOf step)
        "BATCH_SIZE_CLASSIFY" :=
  Tuning.AgreeOn.rawBatchSize_eq h x.settings.batchSizeClassify_mem

theorem AgreeAt.detector_eq (h : x.AgreeAt q b.step) (p : Place) (n : Nat) :
    x.detector p n b = (x.withProfiles q).detector p n b := by
  have hpre := h.fragment_eq (by decide : "PRE_PROCESS" ∈ Tuning.choiceKeys)
  have hoptions := h.fragment_eq (by decide : "DETECTION_OPTIONS" ∈ Tuning.choiceKeys)
  have hconfig := h.fragment_eq (by decide : "PRE_PROCESS_CONFIG" ∈ Tuning.choiceKeys)
  simp only [detector, batchSize, h.rawDetect_eq, hpre, hoptions, hconfig, withModel_withProfiles]
  rfl

theorem AgreeAt.classifier_eq (h : x.AgreeAt q b.step) (p : Place) :
    x.classifier p b = (x.withProfiles q).classifier p b := by
  have hpre := h.fragment_eq (by decide : "CLASSIFICATION_PRE_PROCESS" ∈ Tuning.choiceKeys)
  simp only [classifier, batchSize, h.rawClassify_eq, hpre, withModel_withProfiles]
  rfl

theorem AgreeAt.stage_eq (h : x.AgreeAt q b.step) (p : Place) (last : Nat) :
    x.stage p last b = (x.withProfiles q).stage p last b := by
  unfold stage
  cases b.step.kind with
  | detect => simp only [h.detector_eq]
  | classify => simp only [h.classifier_eq]
  | inference => rfl
  | transform => rfl
  | utility u => rfl
  | unknown name => rfl

theorem AgreeAt.stageLog_eq (h : x.AgreeAt q b.step) :
    x.stageLog b = (x.withProfiles q).stageLog b := by
  have hfiles : (x.withProfiles q).filesOf b.step = x.filesOf b.step := rfl
  unfold stageLog
  rw [hfiles]
  cases b.step.kind with
  | detect => simp only [batchSizeLog, h.rawDetect_eq]; rfl
  | classify => simp only [batchSizeLog, h.rawClassify_eq]; rfl
  | inference => rfl
  | transform => rfl
  | utility u => rfl
  | unknown name => rfl

theorem AgreeAt.decoder_eq {steps : List BoundStep} (h : ∀ s ∈ steps, x.AgreeAt q s.step) :
    x.decoder (firstDevice steps) = (x.withProfiles q).decoder (firstDevice steps) := by
  cases steps with
  | nil => rfl
  | cons s rest =>
      have hdecode : (x.tuningOf s.step).decode = ((x.withProfiles q).tuningOf s.step).decode :=
        Tuning.AgreeOn.decode_eq (h s List.mem_cons_self)
          (x.settings.choiceKeys_subset (by decide))
      rw [firstDevice, List.head?_cons, Option.bind_some]
      unfold tuningOf at hdecode
      cases hdevice : s.step.device with
      | none => rfl
      | some d =>
          rw [hdevice] at hdecode
          exact hdecode

/-- **One branch.** -/
theorem AgreeAt.compile_eq {b : Branch} (h : ∀ s ∈ b.steps, x.AgreeAt q s.step) (last : Nat) :
    x.compile b last = (x.withProfiles q).compile b last := by
  have hstages : (x.addStages b.place [] true (last + 1) b.steps).1 =
      ((x.withProfiles q).addStages b.place [] true (last + 1) b.steps).1 := by
    have hmap : (x.addStages b.place [] true (last + 1) b.steps).1.map id =
        ((x.withProfiles q).addStages b.place [] true (last + 1) b.steps).1.map id :=
      addStages_congr id (fun e f hview => congrArg Element.isQueue hview)
        (List.forall₂_same.mpr fun s hs last => by
          rw [AgreeAt.stage_eq (h s hs)]
          exact ⟨rfl, rfl⟩) rfl true (last + 1)
    rwa [List.map_id, List.map_id] at hmap
  have hchain : (x.compile b last).1.chain = ((x.withProfiles q).compile b last).1.chain := by
    rw [compile_chain, compile_chain, decoder_eq h, hstages]
    rfl
  have hjunction :
      (x.compile b last).1.junction = ((x.withProfiles q).compile b last).1.junction := by
    rw [compile_junction, compile_junction]
    rfl
  have hlast : (x.compile b last).2 = ((x.withProfiles q).compile b last).2 := by
    rw [compile_last, compile_last]
  exact Prod.ext (CompiledBranch.eq_of_parts hchain hjunction) hlast

theorem compileAll_eq {bs : List Branch} (h : ∀ b ∈ bs, ∀ s ∈ b.steps, x.AgreeAt q s.step)
    (last : Nat) : x.compileAll last bs = (x.withProfiles q).compileAll last bs := by
  induction bs generalizing last with
  | nil => rfl
  | cons b rest ih =>
      simp only [compileAll]
      rw [AgreeAt.compile_eq (h b List.mem_cons_self),
        ih fun c hc => h c (List.mem_cons_of_mem b hc)]

end Agreeing

/-! ### Any profiles -/

/-- What of an element shows in the shape of a chain and in its names. -/
def outline (e : Element) : String × List String := (e.factory, e.values "name")

theorem stage_outline (x : Compiler) (q : Profiles) (p : Place) (last : Nat) (b : BoundStep) :
    (x.stage p last b).1.map outline = ((x.withProfiles q).stage p last b).1.map outline := by
  have hdetector (y : Compiler) (n : Nat) :
      outline (y.detector p n b) = ("gvadetect", [b.detectorName n]) := by
    rw [outline, factory_detector, values_detector_name]
  have hclassifier (y : Compiler) : outline (y.classifier p b) = ("gvaclassify", []) := by
    rw [outline, factory_classifier]
    simp [classifier, values_withModel]
  unfold stage
  cases b.step.kind with
  | detect => simp only [List.map_cons, hdetector]
  | classify => simp only [List.map_cons, hclassifier]
  | inference => rfl
  | transform => rfl
  | utility u => rfl
  | unknown name => rfl

end Compiler

/-- Branches that differ at most in the texts of elements and in what decodes, which is the element
right behind those of the source. -/
structure SameButDecoder (x y : Compiler) (a b : CompiledBranch) : Prop where
  /-- Their chains have equally many elements, -/
  length : a.chain.length = b.chain.length
  /-- from the same factories but for the decoder's, -/
  factories : ∃ (source : Source) (device : Option String) (back : List String),
    a.chain.map Element.factory = source.factories ++ x.decoder device :: back ∧
      b.chain.map Element.factory = source.factories ++ y.decoder device :: back
  /-- with the same names. -/
  names : a.chain.map (·.values "name") = b.chain.map (·.values "name")
  /-- Their junctions are the same, legs included. -/
  junction : a.junction = b.junction

namespace Compiler

/-- **One branch**, whatever the profiles. -/
theorem compile_sameButDecoder (x : Compiler) (q : Profiles) (b : Branch) (last : Nat) :
    SameButDecoder x (x.withProfiles q) (x.compile b last).1
      ((x.withProfiles q).compile b last).1 := by
  have hstages : (x.addStages b.place [] true (last + 1) b.steps).1.map outline =
      ((x.withProfiles q).addStages b.place [] true (last + 1) b.steps).1.map outline := by
    refine addStages_congr outline (fun e f hview => ?_)
      (List.forall₂_same.mpr fun s _ last =>
        ⟨x.stage_outline q b.place last s, by rw [x.stage_last, stage_last]⟩) rfl true (last + 1)
    rw [Element.isQueue, Element.isQueue, (Prod.mk.inj hview).1]
  have hfactories : (x.addStages b.place [] true (last + 1) b.steps).1.map Element.factory =
      ((x.withProfiles q).addStages b.place [] true (last + 1) b.steps).1.map Element.factory := by
    have hview := congrArg (List.map Prod.fst) hstages
    rw [List.map_map, List.map_map] at hview
    exact hview
  have hnames : (x.addStages b.place [] true (last + 1) b.steps).1.map (·.values "name") =
      ((x.withProfiles q).addStages b.place [] true (last + 1) b.steps).1.map
        (·.values "name") := by
    have hview := congrArg (List.map Prod.snd) hstages
    rw [List.map_map, List.map_map] at hview
    exact hview
  have hsource : (x.withProfiles q).sourceElements last b.source = x.sourceElements last b.source :=
    rfl
  refine ⟨?length, ⟨b.source, firstDevice b.steps, ?back, ?here, ?there⟩, ?names, ?junction⟩
  case back =>
    exact (attachRegions (regionsOf b.steps)).map Element.factory ++
      (x.addStages b.place [] true (last + 1) b.steps).1.map Element.factory ++
      (branchEnd b (last + b.numbers)).map Element.factory
  case length =>
    have hlength := congrArg List.length hstages
    rw [List.length_map, List.length_map] at hlength
    rw [compile_chain, compile_chain, hsource]
    simp only [List.length_append, List.length_cons, hlength]
  case here =>
    rw [compile_chain, List.map_append, sourceElements_factories, List.map_cons, List.map_append,
      List.map_append, Element.factory_element]
  case there =>
    rw [compile_chain, List.map_append, sourceElements_factories, List.map_cons, List.map_append,
      List.map_append, Element.factory_element, hfactories]
  case names =>
    rw [compile_chain, compile_chain, hsource]
    simp only [List.map_append, List.map_cons, Element.values_element, hnames]
  case junction =>
    rw [compile_junction, compile_junction]
    rfl

theorem compileAll_sameButDecoder (x : Compiler) (q : Profiles) (bs : List Branch) (last : Nat) :
    List.Forall₂ (SameButDecoder x (x.withProfiles q)) (x.compileAll last bs).1
      ((x.withProfiles q).compileAll last bs).1 := by
  induction bs generalizing last with
  | nil => exact .nil
  | cons b rest ih =>
      have hlast : ((x.withProfiles q).compile b last).2 = (x.compile b last).2 := by
        rw [compile_last, compile_last]
      simp only [compileAll, hlast]
      exact .cons (x.compile_sameButDecoder q b last) (ih _)

end Compiler

/-! ### Runs -/

namespace WorkloadMap

/-- Two sets of profiles agree, for the devices that the steps of the map name, on all keys that a
run asks for. -/
def ProfilesAgree (map : WorkloadMap) (settings : Settings) (p q : Profiles) : Prop :=
  ∀ entry ∈ map.entries, ∀ s ∈ entry.2, ∀ d, s.device = some d →
    (p.tuning d).AgreeOn settings.profileKeys (q.tuning d)

theorem ProfilesAgree.agreeAt {map : WorkloadMap} {x : Compiler} {q : Profiles}
    (h : map.ProfilesAgree x.settings x.profiles q) {name : String} {s : Step}
    (hs : s ∈ map.stepsOf name) {t : Step} (hdevice : t.device = s.device) : x.AgreeAt q t := by
  obtain ⟨entry, hentry, hmem⟩ := mem_stepsOf hs
  unfold Compiler.AgreeAt Compiler.tuningOf
  rw [hdevice]
  cases hd : s.device with
  | none => exact Tuning.AgreeOn.refl _ _
  | some d => exact h entry hentry s hmem d hd

end WorkloadMap

namespace Graph

variable {x : Compiler} {q : Profiles} {inputs : Inputs}

/-- The steps of all branches are steps of the map, bound to cameras. -/
theorem agreeAt_of_mem_grouping {map : WorkloadMap}
    (h : map.ProfilesAgree x.settings x.profiles q) {c : Camera × Nat} {b : Branch}
    (hb : b ∈ (cameraGrouping x map c).branches) : ∀ s ∈ b.steps, x.AgreeAt q s.step := by
  intro s hs
  obtain ⟨first, -, hsteps⟩ := (CameraSite.groups_group _).steps b hb
  rw [hsteps, CameraSite.bind] at hs
  obtain ⟨t, ht, rfl⟩ := List.mem_map.mp hs
  exact h.agreeAt ht rfl

theorem cameraLog_congr {map : WorkloadMap} (h : map.ProfilesAgree x.settings x.profiles q)
    (round : Nat) (c : Camera × Nat) :
    cameraLog x map round c = cameraLog (x.withProfiles q) map round c := by
  have hgroups : cameraGrouping (x.withProfiles q) map c = cameraGrouping x map c := rfl
  have hbranches : (cameraGrouping x map c).branches.flatMap x.branchLog =
      (cameraGrouping x map c).branches.flatMap (x.withProfiles q).branchLog := by
    refine List.flatMap_congr fun b hb => ?_
    rw [Compiler.branchLog, Compiler.branchLog]
    exact List.flatMap_congr fun s hs => (agreeAt_of_mem_grouping h hb s hs).stageLog_eq
  rw [cameraLog_eq, cameraLog_eq, hgroups, hbranches]

/-- **Profiles.** Two sets of profiles that agree, for the devices that steps of the workloads name,
on the keys that a run asks for give the same graph and the same log. Whether they agree or not, the
graphs have equally many branches, and their branches differ at most in the texts of elements and in
the factory that decodes. -/
theorem profiles_influence (x : Compiler) (q : Profiles) (inputs : Inputs) (count : Nat) :
    let y : Compiler := { x with profiles := q }
    (inputs.workloads.ProfilesAgree x.settings x.profiles q →
      compile x inputs count = compile y inputs count) ∧
    List.Forall₂ (SameButDecoder x y) (compile x inputs count).1.branches
      (compile y inputs count).1.branches := by
  intro y
  have hround : roundBranches y inputs = roundBranches x inputs := rfl
  refine ⟨fun h => ?_, ?_⟩
  · have hbranches : x.compileAll 0 (copies count (roundBranches x inputs)) =
        (x.withProfiles q).compileAll 0 (copies count (roundBranches x inputs)) := by
      refine Compiler.compileAll_eq (fun b hb => ?_) 0
      obtain ⟨c, -, hb⟩ := List.mem_flatMap.mp (mem_of_mem_copies hb)
      exact agreeAt_of_mem_grouping h hb
    have hlogs (round : Nat) :
        (placedCameras x inputs).flatMap (cameraLog x inputs.workloads round) =
        (placedCameras x inputs).flatMap (cameraLog (x.withProfiles q) inputs.workloads round) :=
      List.flatMap_congr fun c _ => cameraLog_congr h round c
    rw [compile_eq, compile_eq, hround, hbranches]
    simp only [hlogs]
    rfl
  · rw [compile_branches, compile_branches, hround]
    exact x.compileAll_sameButDecoder q _ 0

/-- One processor in two spellings. Its profiles differ in a key that nothing asks for and in a
batch size that the settings give, and only one of the sets has a profile for a device that no step
names. -/
theorem profiles_influence_unasked_keys :
    let settings : Settings :=
      { Settings.ofEnvironment (fun _ => none) "0" with batchSizeDetect := some "4" }
    let p : Profiles :=
      ⟨[("CPU", ⟨[("DECODE", "queue"), ("BATCH_SIZE_DETECT", "8"), ("NOTE", "first")]⟩),
        ("GPU", ⟨[("DECODE", "decodebin3")]⟩)]⟩
    let q : Profiles := ⟨[("CPU", ⟨[("NOTE", "second"), ("DECODE", "queue")]⟩)]⟩
    let x : Compiler := ⟨settings, ⟨"/m", "/v"⟩, p⟩
    let inputs : Inputs :=
      ⟨[{ cameraId := some "a", workloads := .one "w" }],
        ⟨[("w", [{ kind := .detect, device := some "cpu" },
          { kind := .inference, device := some "Cpu" }, { kind := .utility .queue }])]⟩⟩
    inputs.workloads.ProfilesAgree settings p q ∧
      compile x inputs 2 = compile { x with profiles := q } inputs 2 := by
  intro settings p q x inputs
  have hlower : (p.tuning "cpu").AgreeOn settings.profileKeys (q.tuning "cpu") := by
    unfold Tuning.AgreeOn
    decide +kernel
  have hmixed : (p.tuning "Cpu").AgreeOn settings.profileKeys (q.tuning "Cpu") := by
    unfold Tuning.AgreeOn
    decide +kernel
  have hagree : inputs.workloads.ProfilesAgree settings p q := by
    intro entry hentry s hs d hd
    rw [List.mem_singleton.mp hentry] at hs
    simp only [List.mem_cons, List.not_mem_nil, or_false] at hs
    rcases hs with rfl | rfl | rfl
    · rw [← Option.some.inj hd]
      exact hlower
    · rw [← Option.some.inj hd]
      exact hmixed
    · exact absurd hd (by simp)
  exact ⟨hagree, (profiles_influence x q inputs 2).1 hagree⟩

end Graph
end CameraGraph
