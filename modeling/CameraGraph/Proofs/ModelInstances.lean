import CameraGraph.Proofs.BranchShape
import CameraGraph.Proofs.NumberedText
import CameraGraph.Proofs.RedundantRequests

/-!
# CameraGraph.Proofs.ModelInstances

Which elements share an instance of a model.

`ModelRun` is what an element says about the model it runs: the instance, the factory, the model and
the device. The runs of a branch are those of its steps, whatever numbers it takes
(`Compiler.compile_modelRuns`), so the rounds of a run repeat them.

An instance id is made of the kind of a step and of the place of its branch. It leads back to both
(`instanceId_injective`), and a place to one branch of a round (`Graph.eq_of_place_eq`), but nothing
in it tells two steps of one kind in one branch apart. So elements with one id have one factory, and
they run one model on one device unless two steps like that differ (`Graph.same_instance_models`).
-/

namespace CameraGraph

/-! ### Instance ids -/

theorem Place.text_injective {p q : Place} (h : p.text = q.text) : p = q := by
  have hsignature : p.signature = q.signature := by
    have hp := carries_append (natText p.camera) p.signature
    rw [show natText p.camera ++ "_" ++ natText p.signature =
      natText q.camera ++ "_" ++ natText q.signature from h] at hp
    exact hp.number_unique (carries_append (natText q.camera) q.signature)
  have hdigits : natDigits p.camera = natDigits q.camera := by
    have hlist := congrArg String.toList h
    simp only [Place.text, hsignature, String.toList_append, toList_natText] at hlist
    exact List.append_cancel_right (List.append_cancel_right hlist)
  cases p
  cases q
  rw [Place.mk.injEq]
  exact ⟨natDigits_injective hdigits, hsignature⟩

namespace StepKind

/-- The word for a kind in an instance id. -/
def instanceWord : StepKind → String
  | detect => "detect"
  | classify => "classify"
  | inference => "inference"
  | _ => ""

/-- Kinds that run models have words that start differently. -/
theorem eq_of_instanceWord_append {k l : StepKind} (hk : k.runsModel = true)
    (hl : l.runsModel = true) {s t : String} (h : k.instanceWord ++ s = l.instanceWord ++ t) :
    k = l := by
  have hfirst : (k.instanceWord ++ s).toList.head? = (l.instanceWord ++ t).toList.head? := by rw [h]
  clear h
  cases k <;> cases l <;> simp_all [instanceWord, runsModel]

end StepKind

/-- The instance id of the steps of a kind at a place. -/
def instanceId (k : StepKind) (p : Place) : String := k.instanceWord ++ p.text

theorem instanceId_injective {k l : StepKind} {p q : Place} (hk : k.runsModel = true)
    (hl : l.runsModel = true) (h : instanceId k p = instanceId l q) : k = l ∧ p = q := by
  obtain rfl := StepKind.eq_of_instanceWord_append hk hl h
  refine ⟨rfl, Place.text_injective ?_⟩
  have hlist := congrArg String.toList h
  simp only [instanceId, String.toList_append] at hlist
  exact String.toList_inj.mp (List.append_cancel_left hlist)

/-! ### Runs of models -/

/-- What an element says about the model it runs. -/
structure ModelRun where
  id : String
  factory : String
  model : Option String
  device : Option String
  deriving Repr, DecidableEq

namespace Element

theorem get_eq_head?_values (e : Element) (key : String) : e.get key = (e.values key).head? := by
  rw [get, values, List.head?_map, List.head?_filter]

/-- The run of an element with an instance id. -/
def modelRun? (e : Element) : Option ModelRun :=
  (e.get "model-instance-id").map fun id => ⟨id, e.factory, e.get "model", e.get "device"⟩

theorem modelRun?_eq_some_iff {e : Element} {r : ModelRun} :
    e.modelRun? = some r ↔ e.get "model-instance-id" = some r.id ∧ e.factory = r.factory ∧
      e.get "model" = r.model ∧ e.get "device" = r.device := by
  simp only [modelRun?, Option.map_eq_some_iff]
  constructor
  · rintro ⟨id, hid, rfl⟩
    exact ⟨hid, rfl, rfl, rfl⟩
  · rintro ⟨hid, hfactory, hmodel, hdevice⟩
    exact ⟨r.id, hid, by rw [hfactory, hmodel, hdevice]⟩

theorem modelRun?_eq_none {e : Element} (h : e.values "model-instance-id" = []) :
    e.modelRun? = none := by
  rw [modelRun?, e.get_eq_head?_values "model-instance-id", h]
  rfl

end Element

@[simp] theorem values_queue_instance : Element.queue.values "model-instance-id" = [] :=
  values_queue (by decide)

@[simp] theorem Element.modelRun?_queue : Element.queue.modelRun? = none :=
  Element.modelRun?_eq_none values_queue_instance

/-- The runs of a chain of elements, in order. -/
def modelRuns (es : List Element) : List ModelRun := es.filterMap Element.modelRun?

@[simp] theorem modelRuns_nil : modelRuns [] = [] := rfl

@[simp] theorem modelRuns_cons (e : Element) (es : List Element) :
    modelRuns (e :: es) = e.modelRun?.toList ++ modelRuns es := by
  rw [modelRuns, modelRuns, List.filterMap_cons]
  cases e.modelRun? <;> rfl

@[simp] theorem modelRuns_append (as bs : List Element) :
    modelRuns (as ++ bs) = modelRuns as ++ modelRuns bs :=
  List.filterMap_append ..

theorem modelRuns_eq_nil {es : List Element} (h : chainValues "model-instance-id" es = []) :
    modelRuns es = [] := by
  rw [chainValues, List.flatMap_eq_nil_iff] at h
  exact List.filterMap_eq_nil_iff.mpr fun e he => Element.modelRun?_eq_none (h e he)

namespace Compiler

variable (x : Compiler) (p : Place)

/-- The run of a step whose kind runs models. -/
def runOf (s : BoundStep) : ModelRun :=
  ⟨instanceId s.step.kind p, s.step.kind.name, some (x.filesOf s.step).model, s.step.device⟩

/-- The run of a step, if it has one. -/
def modelRun? (s : BoundStep) : Option ModelRun :=
  if s.step.kind.runsModel then some (x.runOf p s) else none

theorem modelRun?_eq_some_iff {p : Place} {s : BoundStep} {r : ModelRun} :
    x.modelRun? p s = some r ↔ s.step.kind.runsModel = true ∧ x.runOf p s = r := by
  rw [modelRun?, Option.ite_none_right_eq_some, Option.some.injEq]

/-- Elements of two steps agree on what they run exactly if the steps do. -/
theorem get_model_device_eq_iff {e f : Element} {p q : Place} {s t : BoundStep}
    (he : e.modelRun? = some (x.runOf p s)) (hf : f.modelRun? = some (x.runOf q t)) :
    (e.get "model" = f.get "model" ∧ e.get "device" = f.get "device") ↔
      (x.filesOf s.step).model = (x.filesOf t.step).model ∧ s.step.device = t.step.device := by
  obtain ⟨-, -, hmodels, hdevices⟩ := Element.modelRun?_eq_some_iff.mp he
  obtain ⟨-, -, hmodelt, hdevicet⟩ := Element.modelRun?_eq_some_iff.mp hf
  rw [hmodels, hmodelt, hdevices, hdevicet]
  simp only [runOf, Option.some.injEq]

theorem values_withModel_model (e : Element) (step : Step) :
    (x.withModel e step).values "model" = e.values "model" ++ [(x.filesOf step).model] := by
  simp only [withModel]
  rw [Element.values_optionalProp _ _ (by decide), Element.values_optionalProp _ _ (by decide)]
  simp

theorem values_withModel_device (e : Element) (step : Step) :
    (x.withModel e step).values "device" = e.values "device" ++ step.device.toList := by
  simp only [withModel]
  rw [Element.values_optionalProp _ _ (by decide)]
  cases step.device <;> simp

theorem modelRun?_of_values {e : Element} (step : Step) (id : String)
    (hid : e.values "model-instance-id" = [id]) (hmodel : e.values "model" = [(x.filesOf step).model])
    (hdevice : e.values "device" = step.device.toList) :
    e.modelRun? = some ⟨id, e.factory, some (x.filesOf step).model, step.device⟩ := by
  simp only [Element.modelRun?, Element.get_eq_head?_values, hid, hmodel, hdevice]
  cases step.device <;> rfl

theorem detector_modelRun? (n : Nat) (s : BoundStep) :
    (x.detector p n s).modelRun? =
      some ⟨"detect" ++ p.text, "gvadetect", some (x.filesOf s.step).model, s.step.device⟩ := by
  rw [← x.factory_detector p n s]
  apply x.modelRun?_of_values s.step
  all_goals
    unfold detector
    cases s.step.region <;> simp [values_withModel, values_withModel_model, values_withModel_device]

theorem classifier_modelRun? (s : BoundStep) :
    (x.classifier p s).modelRun? =
      some ⟨"classify" ++ p.text, "gvaclassify", some (x.filesOf s.step).model, s.step.device⟩ := by
  rw [← x.factory_classifier p s]
  apply x.modelRun?_of_values s.step <;>
    simp [classifier, values_withModel, values_withModel_model, values_withModel_device]

theorem inference_modelRun? (s : BoundStep) :
    (x.withModel ((element "gvainference").prop "model-instance-id" ("inference" ++ p.text))
        s.step).modelRun? =
      some ⟨"inference" ++ p.text, "gvainference", some (x.filesOf s.step).model,
        s.step.device⟩ := by
  rw [x.modelRun?_of_values s.step ("inference" ++ p.text) (by simp [values_withModel])
    (by simp [values_withModel_model]) (by simp [values_withModel_device])]
  simp

/-- A step becomes one element that runs its model, beside elements that run none. -/
theorem stage_modelRuns (last : Nat) (s : BoundStep) :
    modelRuns (x.stage p last s).1 = (x.modelRun? p s).toList := by
  unfold stage modelRun? runOf
  cases s.step.kind with
  | detect =>
      have htrack : ((element "gvatrack").prop "tracking-type" "zero-term-imageless").modelRun? =
          none := Element.modelRun?_eq_none (by simp)
      simp only [modelRuns_cons, detector_modelRun?, htrack, Element.modelRun?_queue]
      rfl
  | classify =>
      simp only [modelRuns_cons, classifier_modelRun?, Element.modelRun?_queue]
      rfl
  | inference =>
      simp only [modelRuns_cons, inference_modelRun?]
      rfl
  | transform => exact modelRuns_eq_nil (by simp)
  | utility u => exact modelRuns_eq_nil (by simp)
  | unknown name => exact modelRuns_eq_nil (by simp)

theorem addStages_modelRuns (chain : List Element) (first : Bool) (last : Nat)
    (steps : List BoundStep) :
    modelRuns (x.addStages p chain first last steps).1 =
      modelRuns chain ++ steps.filterMap (x.modelRun? p) := by
  induction steps generalizing chain first last with
  | nil => simp [addStages]
  | cons s rest ih =>
      have hspaced : modelRuns (if first || chain.getLast?.any Element.isQueue then chain
          else chain ++ [.queue]) = modelRuns chain := by
        split <;> simp
      simp only [addStages]
      rw [ih, modelRuns_append, hspaced, stage_modelRuns, List.append_assoc, List.filterMap_cons]
      cases x.modelRun? p s <;> rfl

theorem legs_modelRuns (n : Nat) (transform : Bool) (device : Option String) :
    modelRuns ([x.countingLeg p n transform, measuringLeg] ++
      (if x.settings.render then [showingLeg device] else [])).flatten = [] := by
  have hcounting : chainValues "model-instance-id" (x.countingLeg p n transform) = [] := by
    unfold countingLeg
    cases transform <;> simp [fakeSink]
  have hmeasuring := measuringLeg_values "model-instance-id" values_queue_instance (by decide)
    (by decide)
  have hshowing := showingLeg_values device "model-instance-id" values_queue_instance (by decide)
    (by decide) (by decide)
  apply modelRuns_eq_nil
  cases x.settings.render <;> simp [hcounting, hmeasuring, hshowing]

/-- **Runs.** A branch runs the models of its steps, whatever numbers it takes. -/
theorem compile_modelRuns (b : Branch) (last : Nat) :
    modelRuns (x.compile b last).1.elements = b.steps.filterMap (x.modelRun? b.place) := by
  have hfront (decode : String) : modelRuns ((x.sourceElements last b.source).1 ++
      [element decode] ++ attachRegions (regionsOf b.steps)) = [] := by
    apply modelRuns_eq_nil
    rw [chainValues_append, chainValues_attachRegions values_queue_instance (by decide)]
    cases b.source <;> simp [sourceElements, allocate]
  have hend (name : String) : modelRuns ((if hasTransform b.steps then []
      else [element "gvametaconvert"]) ++ [(element "tee").prop "name" name]) = [] := by
    apply modelRuns_eq_nil
    cases hasTransform b.steps <;> simp
  rw [CompiledBranch.elements, modelRuns_append, x.compile_junction, legs_modelRuns,
    List.append_nil]
  simp only [compile]
  rw [List.append_assoc, modelRuns_append, addStages_modelRuns, hfront, hend, List.append_nil,
    List.nil_append]

theorem compileAll_modelRuns (bs : List Branch) (last : Nat) :
    modelRuns ((x.compileAll last bs).1.flatMap CompiledBranch.elements) =
      bs.flatMap fun b => b.steps.filterMap (x.modelRun? b.place) := by
  induction bs generalizing last with
  | nil => rfl
  | cons b rest ih =>
      simp only [compileAll, List.flatMap_cons]
      rw [modelRuns_append, compile_modelRuns, ih]

end Compiler

/-- Two steps of one kind that do not run one model on one device. -/
def Compiler.Clash (x : Compiler) (s t : BoundStep) : Prop :=
  s.step.kind.runsModel = true ∧ s.step.kind = t.step.kind ∧
    ¬((x.filesOf s.step).model = (x.filesOf t.step).model ∧ s.step.device = t.step.device)

instance (x : Compiler) (s t : BoundStep) : Decidable (x.Clash s t) :=
  inferInstanceAs (Decidable (_ ∧ _ ∧ _))

/-! ### Places -/

namespace Graph

variable {x : Compiler} {inputs : Inputs}

theorem cameraGrouping_cameraIndex {map : WorkloadMap} {c : Camera × Nat} {b : Branch}
    (hb : b ∈ (cameraGrouping x map c).branches) : b.cameraIndex = c.2 := by
  rw [cameraGrouping_branches] at hb
  obtain ⟨_, _, hopened⟩ := CameraSite.mem_group hb
  exact congrArg Branch.cameraIndex hopened

theorem cameraGrouping_signatureIndex_nodup (map : WorkloadMap) (c : Camera × Nat) :
    ((cameraGrouping x map c).branches.map (·.signatureIndex)).Nodup := by
  show ((CameraSite.group _ _ _).branches.map _).Nodup
  rw [(CameraSite.groups_group _).positions]
  exact List.nodup_range

/-- **Places.** No two branches of a round have one place. -/
theorem eq_of_place_eq {b b' : Branch} (hb : b ∈ roundBranches x inputs)
    (hb' : b' ∈ roundBranches x inputs) (h : b.place = b'.place) : b = b' := by
  obtain ⟨⟨camera, i⟩, hc, hb⟩ := List.mem_flatMap.mp hb
  obtain ⟨⟨camera', i'⟩, hc', hb'⟩ := List.mem_flatMap.mp hb'
  obtain ⟨hcamera, hsignature⟩ : b.cameraIndex = b'.cameraIndex ∧
      b.signatureIndex = b'.signatureIndex := by
    simpa [Branch.place] using h
  -- The camera is found by its position, and the branch by its own among the camera's.
  obtain rfl : i = i' :=
    (cameraGrouping_cameraIndex hb).symm.trans (hcamera.trans (cameraGrouping_cameraIndex hb'))
  obtain rfl : camera = camera' :=
    Option.some.inj ((List.mem_zipIdx_iff_getElem?.mp hc).symm.trans
      (List.mem_zipIdx_iff_getElem?.mp hc'))
  exact List.inj_on_of_nodup_map (cameraGrouping_signatureIndex_nodup _ _) hb hb' hsignature

/-! ### Whole graphs -/

/-- All elements of a graph. -/
def elements (g : Graph) : List Element := g.branches.flatMap CompiledBranch.elements

theorem compile_modelRuns (x : Compiler) (inputs : Inputs) (count : Nat) :
    modelRuns (compile x inputs count).1.elements =
      (copies count (roundBranches x inputs)).flatMap fun b =>
        b.steps.filterMap (x.modelRun? b.place) := by
  rw [elements, compile_branches, x.compileAll_modelRuns]

/-- An element with an instance id runs the model of a step of its branch. -/
theorem exists_step_of_element {count : Nat} {e : Element}
    (he : e ∈ (compile x inputs count).1.elements) {id : String}
    (hid : e.get "model-instance-id" = some id) :
    ∃ b ∈ roundBranches x inputs, ∃ s ∈ b.steps,
      s.step.kind.runsModel = true ∧ e.modelRun? = some (x.runOf b.place s) := by
  have hrun : e.modelRun? = some ⟨id, e.factory, e.get "model", e.get "device"⟩ :=
    Element.modelRun?_eq_some_iff.mpr ⟨hid, rfl, rfl, rfl⟩
  have hmem := List.mem_filterMap.mpr ⟨e, he, hrun⟩
  rw [← modelRuns, compile_modelRuns] at hmem
  obtain ⟨b, hb, hmem⟩ := List.mem_flatMap.mp hmem
  obtain ⟨s, hs, hr⟩ := List.mem_filterMap.mp hmem
  obtain ⟨hruns, hof⟩ := x.modelRun?_eq_some_iff.mp hr
  exact ⟨b, mem_of_mem_copies hb, s, hs, hruns, hrun.trans (congrArg some hof.symm)⟩

theorem exists_element_of_step {count : Nat} (hcount : 0 < count) {b : Branch}
    (hb : b ∈ roundBranches x inputs) {s : BoundStep} (hs : s ∈ b.steps)
    (hruns : s.step.kind.runsModel = true) :
    ∃ e ∈ (compile x inputs count).1.elements, e.modelRun? = some (x.runOf b.place s) := by
  have hcopies : b ∈ copies count (roundBranches x inputs) :=
    List.mem_flatten.mpr ⟨_, List.mem_replicate.mpr ⟨Nat.ne_of_gt hcount, rfl⟩, hb⟩
  have hmem : x.runOf b.place s ∈ modelRuns (compile x inputs count).1.elements := by
    rw [compile_modelRuns]
    exact List.mem_flatMap.mpr ⟨b, hcopies, List.mem_filterMap.mpr
      ⟨s, hs, x.modelRun?_eq_some_iff.mpr ⟨hruns, rfl⟩⟩⟩
  exact List.mem_filterMap.mp hmem

/-- An instance id leads back to one kind of steps of one branch of a round. -/
theorem kind_and_branch_eq {b b' : Branch} {s t : BoundStep} (hb : b ∈ roundBranches x inputs)
    (hb' : b' ∈ roundBranches x inputs) (hs : s.step.kind.runsModel = true)
    (ht : t.step.kind.runsModel = true)
    (hid : (x.runOf b.place s).id = (x.runOf b'.place t).id) :
    s.step.kind = t.step.kind ∧ b = b' := by
  obtain ⟨hkind, hplace⟩ := instanceId_injective hs ht hid
  exact ⟨hkind, eq_of_place_eq hb hb' hplace⟩

/-- **Instances.** For every run: elements with one instance id have one factory, and they run one
model on one device, unless they come from two steps of a branch that clash. Conversely any two steps
of a branch that clash become elements with one id that do not. -/
theorem same_instance_models (x : Compiler) (inputs : Inputs) (count : Nat) :
    let es := (compile x inputs count).1.elements
    (∀ e ∈ es, ∀ f ∈ es, ∀ id, e.get "model-instance-id" = some id →
      f.get "model-instance-id" = some id →
        e.factory = f.factory ∧
          ((e.get "model" = f.get "model" ∧ e.get "device" = f.get "device") ∨
            ∃ b ∈ roundBranches x inputs, ∃ s ∈ b.steps, ∃ t ∈ b.steps, x.Clash s t ∧
              e.modelRun? = some (x.runOf b.place s) ∧
              f.modelRun? = some (x.runOf b.place t))) ∧
    (0 < count → ∀ b ∈ roundBranches x inputs, ∀ s ∈ b.steps, ∀ t ∈ b.steps, x.Clash s t →
      ∃ e ∈ es, ∃ f ∈ es, ∃ id, e.get "model-instance-id" = some id ∧
        f.get "model-instance-id" = some id ∧
        ¬(e.get "model" = f.get "model" ∧ e.get "device" = f.get "device")) := by
  intro es
  refine ⟨?_, ?_⟩
  · intro e he f hf id hide hidf
    obtain ⟨b, hb, s, hs, hruns, hrune⟩ := exists_step_of_element he hide
    obtain ⟨b', hb', t, ht, hrunt, hrunf⟩ := exists_step_of_element hf hidf
    obtain ⟨hids, hfactorys, -⟩ := Element.modelRun?_eq_some_iff.mp hrune
    obtain ⟨hidt, hfactoryt, -⟩ := Element.modelRun?_eq_some_iff.mp hrunf
    have hid : (x.runOf b.place s).id = (x.runOf b'.place t).id :=
      Option.some.inj (hids.symm.trans (hide.trans (hidf.symm.trans hidt)))
    obtain ⟨hkind, rfl⟩ := kind_and_branch_eq hb hb' hruns hrunt hid
    have hname : s.step.kind.name = t.step.kind.name := congrArg StepKind.name hkind
    refine ⟨hfactorys.trans (hname.trans hfactoryt.symm), ?_⟩
    rw [x.get_model_device_eq_iff hrune hrunf]
    by_cases hagree : (x.filesOf s.step).model = (x.filesOf t.step).model ∧
        s.step.device = t.step.device
    · exact .inl hagree
    · exact .inr ⟨b, hb, s, hs, t, ht, ⟨hruns, hkind, hagree⟩, hrune, hrunf⟩
  · intro hcount b hb s hs t ht hclash
    obtain ⟨hruns, hkind, hdiffer⟩ := hclash
    obtain ⟨e, he, hrune⟩ := exists_element_of_step hcount hb hs hruns
    obtain ⟨f, hf, hrunf⟩ := exists_element_of_step hcount hb ht (hkind ▸ hruns)
    obtain ⟨hids, -⟩ := Element.modelRun?_eq_some_iff.mp hrune
    obtain ⟨hidt, -⟩ := Element.modelRun?_eq_some_iff.mp hrunf
    have hid : (x.runOf b.place t).id = (x.runOf b.place s).id := by
      rw [Compiler.runOf, Compiler.runOf, hkind]
    refine ⟨e, he, f, hf, _, hids, hidt.trans (congrArg some hid), ?_⟩
    rw [x.get_model_device_eq_iff hrune hrunf]
    exact hdiffer

/-- Two rounds of a camera with a workload that runs two detectors and one that runs a third: the
third shares its instance with itself only, the first two share theirs. -/
theorem same_instance_models_two_rounds :
    let x : Compiler := ⟨Settings.ofEnvironment (fun _ => none) "0", ⟨"/m", "/v"⟩, {}⟩
    let first : Step :=
      { kind := .detect, model := some "m", device := some "CPU", precision := some "FP16" }
    let second : Step := { first with model := some "n", device := some "GPU" }
    let inputs : Inputs :=
      ⟨[{ cameraId := some "a", workloads := .many ["pair", "single"] }],
        ⟨[("pair", [first, second]), ("single", [second])]⟩⟩
    let es := (compile x inputs 2).1.elements
    let single : BoundStep := ⟨second, "single", "a"⟩
    let e := x.detector ⟨1, 2⟩ 6 single
    let f := x.detector ⟨1, 2⟩ 13 single
    (e ∈ es ∧ f ∈ es ∧ e.get "name" ≠ f.get "name" ∧
      e.get "model-instance-id" = some "detect1_2" ∧ f.get "model-instance-id" = some "detect1_2" ∧
      e.factory = f.factory ∧ e.get "model" = f.get "model" ∧ e.get "device" = f.get "device") ∧
    (∃ e ∈ es, ∃ f ∈ es, ∃ id, e.get "model-instance-id" = some id ∧
      f.get "model-instance-id" = some id ∧
      ¬(e.get "model" = f.get "model" ∧ e.get "device" = f.get "device")) := by
  intro x first second inputs es single e f
  obtain ⟨hsame, hdiffer⟩ := same_instance_models x inputs 2
  constructor
  · have he : e ∈ es := by decide +kernel
    have hf : f ∈ es := by decide +kernel
    have hide : e.get "model-instance-id" = some "detect1_2" := by decide +kernel
    have hidf : f.get "model-instance-id" = some "detect1_2" := by decide +kernel
    -- Only the first two detectors clash, and they have another id.
    have hnone : ¬∃ b ∈ roundBranches x inputs, ∃ s ∈ b.steps, ∃ t ∈ b.steps, x.Clash s t ∧
        e.modelRun? = some (x.runOf b.place s) ∧ f.modelRun? = some (x.runOf b.place t) := by
      decide +kernel
    obtain ⟨hfactory, hmodels⟩ := hsame e he f hf "detect1_2" hide hidf
    exact ⟨he, hf, by decide +kernel, hide, hidf, hfactory, hmodels.resolve_right hnone⟩
  · obtain ⟨b, hb, s, hs, t, ht, hclash⟩ : ∃ b ∈ roundBranches x inputs, ∃ s ∈ b.steps,
        ∃ t ∈ b.steps, x.Clash s t := by decide +kernel
    exact hdiffer (by decide) b hb s hs t ht hclash

/-- Two detectors of one workload share an instance id, whatever models they run. -/
theorem same_instance_two_models :
    let x : Compiler := ⟨Settings.ofEnvironment (fun _ => none) "0", ⟨"/m", "/v"⟩, {}⟩
    let first : Step :=
      { kind := .detect, model := some "m", device := some "CPU", precision := some "FP16" }
    let second : Step := { first with model := some "n", device := some "GPU" }
    let inputs : Inputs :=
      ⟨[{ cameraId := some "a", workloads := .one "w" }], ⟨[("w", [first, second])]⟩⟩
    let es := (compile x inputs 1).1.elements
    ∃ e ∈ es, ∃ f ∈ es, e.get "model-instance-id" = some "detect1_1" ∧
      f.get "model-instance-id" = some "detect1_1" ∧
      e.get "model" = some "/m/object_detection/m/FP16/m.xml" ∧
      f.get "model" = some "/m/object_detection/n/FP16/n.xml" ∧
      e.get "device" = some "CPU" ∧ f.get "device" = some "GPU" := by
  decide +kernel

end Graph

end CameraGraph
