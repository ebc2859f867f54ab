import CameraGraph.Proofs.ProfileInfluence

/-!
# CameraGraph.Proofs.DeviceSpelling

The letter case of devices.

A device is looked at in five places: the choice of the decoder, the fragments and the batch size of a
stage, the warnings about missing fields, and the leg that shows frames. All of them see its upper-case
form only, so two branches whose devices differ in their spelling (`Branch.Respelt`) are compiled to the
same elements. What still shows the spelling is the value of the `device` property, and
`Element.inCapitals` is the element without that difference.
-/

namespace CameraGraph

/-! ### Elements -/

namespace Element

/-- The element with the values of its `device` properties upper-cased. -/
def inCapitals (e : Element) : Element :=
  { e with props := e.props.map fun p =>
      if p.1 = "device" then (p.1, .plain (Text.upper p.2.value)) else p }

theorem inCapitals_prop (e : Element) {k : String} (v : String) (h : k ≠ "device") :
    (e.prop k v).inCapitals = e.inCapitals.prop k v := by
  simp [inCapitals, prop, h]

theorem inCapitals_device (e : Element) (v : String) :
    (e.prop "device" v).inCapitals = e.inCapitals.prop "device" (Text.upper v) := by
  simp [inCapitals, prop, PropValue.value]

theorem inCapitals_optionalProp (e : Element) (o : Option String) {k : String}
    (h : k ≠ "device") :
    (o.elim e (e.prop k)).inCapitals = o.elim e.inCapitals (e.inCapitals.prop k) := by
  cases o with
  | none => rfl
  | some v => exact e.inCapitals_prop v h

theorem inCapitals_optionalDevice (e : Element) (o : Option String) :
    (o.elim e (e.prop "device")).inCapitals =
      (o.map Text.upper).elim e.inCapitals (e.inCapitals.prop "device") := by
  cases o with
  | none => rfl
  | some v => exact e.inCapitals_device v

theorem inCapitals_fragment (e : Element) (raw : String) :
    (e.fragment raw).inCapitals = e.inCapitals.fragment raw := by
  unfold fragment
  cases Text.nonBlank? raw <;> rfl

theorem isQueue_inCapitals (e : Element) : e.inCapitals.isQueue = e.isQueue := rfl

end Element

/-! ### Steps and branches -/

/-- The same step, its device in a spelling with the same upper-case form. -/
def BoundStep.Respelt (s t : BoundStep) : Prop :=
  ∃ device, device.map Text.upper = s.step.device.map Text.upper ∧
    t = { s with step := { s.step with device } }

/-- The same place and the same source, and the same steps but for the spelling of their devices. The
signature is left open, as it shows the spelling. -/
structure Branch.Respelt (a b : Branch) : Prop where
  place : a.place = b.place
  source : a.source = b.source
  steps : List.Forall₂ BoundStep.Respelt a.steps b.steps

theorem Profiles.tuning_respelt (p : Profiles) {d e : Option String}
    (h : e.map Text.upper = d.map Text.upper) :
    e.map p.tuning = d.map p.tuning := by
  have hfactor (o : Option String) : o.map p.tuning =
      (o.map Text.upper).map fun u => (KeyedList.last? u p.entries).getD {} := by
    rw [Option.map_map]
    rfl
  rw [hfactor, hfactor, h]

namespace BoundStep.Respelt

variable {s t : BoundStep}

theorem detects (h : s.Respelt t) : t.detects = s.detects := by
  obtain ⟨d, -, rfl⟩ := h
  rfl

theorem tuningOf (h : s.Respelt t) (x : Compiler) : x.tuningOf t.step = x.tuningOf s.step := by
  obtain ⟨d, hd, rfl⟩ := h
  rw [Compiler.tuningOf, Compiler.tuningOf, x.profiles.tuning_respelt hd]

theorem missingFields (h : s.Respelt t) :
    Compiler.missingFields t.step = Compiler.missingFields s.step := by
  obtain ⟨d, hd, rfl⟩ := h
  have hnone : d.isNone = s.step.device.isNone := by
    rw [← Option.isNone_map (f := Text.upper), hd, Option.isNone_map]
  simp only [Compiler.missingFields, List.filterMap_cons, hnone]

/-- What is said about a step does not show the spelling. -/
theorem stageLog (h : s.Respelt t) (x : Compiler) : x.stageLog t = x.stageLog s := by
  have htuning := h.tuningOf x
  have hmissing := h.missingFields
  obtain ⟨d, -, rfl⟩ := h
  simp only [Compiler.stageLog, htuning, hmissing]
  rfl

theorem withModel (h : s.Respelt t) (x : Compiler) (e : Element) :
    (x.withModel e t.step).inCapitals = (x.withModel e s.step).inCapitals := by
  obtain ⟨d, hd, rfl⟩ := h
  have hfiles : x.filesOf { s.step with device := d } = x.filesOf s.step := rfl
  simp only [Compiler.withModel, hfiles]
  have hproc : "model-proc" ≠ "device" := by decide
  rw [Element.inCapitals_optionalProp _ _ hproc, Element.inCapitals_optionalProp _ _ hproc,
    Element.inCapitals_optionalDevice, Element.inCapitals_optionalDevice, hd]

theorem detector (h : s.Respelt t) (x : Compiler) (p : Place) (n : Nat) :
    (x.detector p n t).inCapitals = (x.detector p n s).inCapitals := by
  have htuning := h.tuningOf x
  have hmodel := h.withModel x
  obtain ⟨d, -, rfl⟩ := h
  simp only [Compiler.detector, htuning, Element.inCapitals_fragment, hmodel]

theorem classifier (h : s.Respelt t) (x : Compiler) (p : Place) :
    (x.classifier p t).inCapitals = (x.classifier p s).inCapitals := by
  have htuning := h.tuningOf x
  have hmodel := h.withModel x
  simp only [Compiler.classifier, htuning, Element.inCapitals_fragment, hmodel]

/-- **One stage.** -/
theorem stage (h : s.Respelt t) (x : Compiler) (p : Place) (last : Nat) :
    (x.stage p last t).1.map Element.inCapitals = (x.stage p last s).1.map Element.inCapitals ∧
      (x.stage p last t).2 = (x.stage p last s).2 := by
  refine ⟨?_, by rw [x.stage_last, x.stage_last, h.detects]⟩
  have hkind : t.step.kind = s.step.kind := by
    obtain ⟨d, -, rfl⟩ := h
    rfl
  have hdetector := h.detector x p
  have hclassifier := h.classifier x p
  have hmodel := h.withModel x
  have hscript : t.step.module = s.step.module ∧ t.step.function = s.step.function := by
    obtain ⟨d, -, rfl⟩ := h
    exact ⟨rfl, rfl⟩
  unfold Compiler.stage
  rw [hkind]
  cases s.step.kind with
  | detect => simp only [List.map_cons, hdetector]
  | classify => simp only [List.map_cons, hclassifier]
  | inference => simp only [List.map_cons, hmodel]
  | transform => rw [hscript.1, hscript.2]
  | utility u => rfl
  | unknown name => rfl

end BoundStep.Respelt

/-! ### Lists of steps -/

/-- The step without its device. -/
def BoundStep.undeviced (s : BoundStep) : BoundStep := { s with step := { s.step with device := none } }

namespace Compiler

variable (steps : List BoundStep)

theorem regionsOf_undeviced : regionsOf (steps.map BoundStep.undeviced) = regionsOf steps := by
  rw [regionsOf, List.filterMap_map]
  rfl

theorem hasTransform_undeviced :
    hasTransform (steps.map BoundStep.undeviced) = hasTransform steps := by
  rw [hasTransform, List.any_map]
  rfl

variable {ss ts : List BoundStep}

theorem undeviced_respelt (h : List.Forall₂ BoundStep.Respelt ss ts) :
    ts.map BoundStep.undeviced = ss.map BoundStep.undeviced := by
  induction h with
  | nil => rfl
  | cons hfirst _ ih =>
      obtain ⟨d, -, rfl⟩ := hfirst
      rw [List.map_cons, List.map_cons, ih]
      rfl

theorem firstDevice_respelt (h : List.Forall₂ BoundStep.Respelt ss ts) :
    (firstDevice ts).map Text.upper = (firstDevice ss).map Text.upper := by
  cases h with
  | nil => rfl
  | cons hfirst _ =>
      obtain ⟨d, hd, rfl⟩ := hfirst
      exact hd

theorem stageLogs_respelt (h : List.Forall₂ BoundStep.Respelt ss ts) (x : Compiler) :
    ts.flatMap x.stageLog = ss.flatMap x.stageLog := by
  induction h with
  | nil => rfl
  | cons hfirst _ ih => rw [List.flatMap_cons, List.flatMap_cons, ih, hfirst.stageLog x]

end Compiler

/-! ### Branches -/

namespace Branch.Respelt

variable {a b : Branch}

theorem undeviced (h : a.Respelt b) :
    b.steps.map BoundStep.undeviced = a.steps.map BoundStep.undeviced :=
  Compiler.undeviced_respelt h.steps

theorem firstDevice (h : a.Respelt b) :
    (Compiler.firstDevice b.steps).map Text.upper =
      (Compiler.firstDevice a.steps).map Text.upper :=
  Compiler.firstDevice_respelt h.steps

theorem regionsOf (h : a.Respelt b) :
    Compiler.regionsOf b.steps = Compiler.regionsOf a.steps := by
  rw [← Compiler.regionsOf_undeviced, h.undeviced, Compiler.regionsOf_undeviced]

theorem hasTransform (h : a.Respelt b) :
    Compiler.hasTransform b.steps = Compiler.hasTransform a.steps := by
  rw [← Compiler.hasTransform_undeviced, h.undeviced, Compiler.hasTransform_undeviced]

theorem numbers (h : a.Respelt b) : b.numbers = a.numbers := by
  have hdetectors (c : Branch) :
      c.numbers = 2 + ((c.steps.map BoundStep.undeviced).filter BoundStep.detects).length := by
    rw [List.filter_map, List.length_map]
    rfl
  rw [hdetectors, h.undeviced, ← hdetectors]

theorem decoder (h : a.Respelt b) (x : Compiler) :
    x.decoder (Compiler.firstDevice b.steps) = x.decoder (Compiler.firstDevice a.steps) := by
  have hfactor (o : Option String) :
      x.decoder o = ((o.map x.profiles.tuning).map Tuning.decode).getD "decodebin" := by
    cases o <;> rfl
  rw [hfactor, hfactor, x.profiles.tuning_respelt h.firstDevice]

/-- Whether frames are fetched from the memory of a device does not show the spelling. -/
theorem showingLeg (h : a.Respelt b) :
    Compiler.showingLeg (Compiler.firstDevice b.steps) =
      Compiler.showingLeg (Compiler.firstDevice a.steps) := by
  have hfactor (o : Option String) :
      (o.any fun d => ["GPU", "NPU"].contains (Text.upper d)) =
        (o.map Text.upper).any fun u => ["GPU", "NPU"].contains u := by
    cases o <;> rfl
  simp only [Compiler.showingLeg, hfactor, h.firstDevice]

theorem junction (h : a.Respelt b) (x : Compiler) (last : Nat) :
    (x.compile b last).1.junction = (x.compile a last).1.junction := by
  rw [x.compile_junction, x.compile_junction, h.numbers, h.hasTransform, h.showingLeg, ← h.place,
    Branch.teeName, Branch.teeName, h.place]

theorem chain (h : a.Respelt b) (x : Compiler) (last : Nat) :
    (x.compile b last).1.chain.map Element.inCapitals =
      (x.compile a last).1.chain.map Element.inCapitals := by
  have hstages : (x.addStages b.place [] true (last + 1) b.steps).1.map Element.inCapitals =
      (x.addStages b.place [] true (last + 1) a.steps).1.map Element.inCapitals := by
    refine (Compiler.addStages_congr Element.inCapitals ?queue
      (h.steps.imp fun s t hst last => ?stage) rfl true (last + 1)).symm
    case queue =>
      intro e f hview
      rw [← e.isQueue_inCapitals, hview, f.isQueue_inCapitals]
    case stage =>
      obtain ⟨helements, hlast⟩ := hst.stage x b.place last
      exact ⟨helements.symm, hlast.symm⟩
  have hend : Compiler.branchEnd b (last + b.numbers) = Compiler.branchEnd a (last + a.numbers) := by
    rw [Compiler.branchEnd, Compiler.branchEnd, h.hasTransform, h.numbers, Branch.teeName,
      Branch.teeName, h.place]
  rw [x.compile_chain, x.compile_chain, ← h.source, h.decoder, h.regionsOf, hend, ← h.place]
  simp only [List.map_append, List.map_cons, h.place, hstages]

theorem branchLog (h : a.Respelt b) (x : Compiler) : x.branchLog b = x.branchLog a :=
  Compiler.stageLogs_respelt h.steps x

end Branch.Respelt

/-- **Spelling.** Branches whose devices differ in their spelling only are compiled to the same chain
but for the values of `device` properties, which have the same upper-case forms, to the same junction
with the same legs, by the same numbers and with the same log. -/
theorem Compiler.compile_respelt (x : Compiler) {a b : Branch} (h : a.Respelt b) (last : Nat) :
    (x.compile a last).1.chain.map Element.inCapitals =
        (x.compile b last).1.chain.map Element.inCapitals ∧
      (x.compile a last).1.junction = (x.compile b last).1.junction ∧
      (x.compile a last).2 = (x.compile b last).2 ∧
      x.branchLog a = x.branchLog b := by
  refine ⟨(h.chain x last).symm, (h.junction x last).symm, ?_, (h.branchLog x).symm⟩
  rw [x.compile_last, x.compile_last, h.numbers]

/-- Spellings of different lengths, with a profile under the common upper-case form and a setting that
shows frames. -/
theorem Compiler.compile_respelt_sharp_s :
    let settings := Settings.ofEnvironment (fun key => if key = "RENDER_MODE" then some "1" else none) "0"
    let profile : Tuning := ⟨[("DECODE", "decodebin3"), ("BATCH_SIZE_CLASSIFY", "0")]⟩
    let x : Compiler := ⟨settings, ⟨"/m", "/v"⟩, ⟨[("GPU", profile), ("STRASSE", profile)]⟩⟩
    let branch (first second : String) : Branch :=
      { cameraIndex := 0, signatureIndex := 0, signature := ⟨first⟩, source := .file "f" "s",
        workloads := [],
        steps := [⟨{ kind := .detect, device := some first }, "w", "a"⟩,
          ⟨{ kind := .classify, device := some second }, "w", "a"⟩,
          ⟨{ kind := .inference }, "w", "a"⟩] }
    (branch "gPu" "straße").Respelt (branch "Gpu" "STRASSE") ∧
      (x.compile (branch "gPu" "straße") 0).1.junction =
        (x.compile (branch "Gpu" "STRASSE") 0).1.junction ∧
      x.branchLog (branch "gPu" "straße") = x.branchLog (branch "Gpu" "STRASSE") := by
  intro settings profile x branch
  have hrespelt : (branch "gPu" "straße").Respelt (branch "Gpu" "STRASSE") := by
    refine ⟨rfl, rfl, .cons ⟨some "Gpu", ?_, rfl⟩ (.cons ⟨some "STRASSE", ?_, rfl⟩
      (.cons ⟨none, rfl, rfl⟩ .nil))⟩
    · decide +kernel
    · decide +kernel
  obtain ⟨-, hjunction, -, hlog⟩ := x.compile_respelt hrespelt 0
  exact ⟨hrespelt, hjunction, hlog⟩

end CameraGraph
