import CameraGraph.Proofs.Json.Order
import CameraGraph.Proofs.ProgramBoundary

/-!
# CameraGraph.Proofs.MemberOrder

The order of members in the documents.

The members of a camera and those of a step may stand in any order, known ones, unknown ones and those
inside of which an error is found: the same camera or step comes of them, or none at all. So it is with
whole documents, and so a run ends in the same command and the same log, or fails either way.
-/

namespace CameraGraph

open Json

namespace Region

theorem decoder_local : Local decoder := via_local anyValue_local ofValue

end Region

namespace Camera

theorem scalar_local : Local scalar := via_local (optional_local anyValue_local) scalarOf

theorem shape_local : ∀ f ∈ shape.fields, Local f.read := by
  have hscalar (key : String) (set : Option String → Camera → Camera) :=
    Field.optional_local scalar_local key set
  simp only [shape, List.forall_mem_cons]
  exact ⟨hscalar _ _, Field.optional_local (via_local anyValue_local _) _ _,
    Field.optional_local Region.decoder_local _ _, hscalar _ _, hscalar _ _, hscalar _ _, hscalar _ _,
    hscalar _ _, hscalar _ _, hscalar _ _, List.forall_mem_nil _⟩

/-- Every field of a camera has a place of its own. -/
theorem shape_separate : shape.Separate := by
  simp only [Shape.Separate, shape, List.pairwise_cons, List.forall_mem_cons]
  repeat' apply And.intro
  all_goals first
    | exact Field.optional_commutes _ _ fun _ _ _ => rfl
    | exact List.forall_mem_nil _
    | exact List.Pairwise.nil

end Camera

namespace Step

theorem shape_local : ∀ f ∈ shape.fields, Local f.read := by
  have htext (key : String) (set : Option String → Step → Step) :=
    Field.optional_local (optional_local text_local) key set
  simp only [shape, List.forall_mem_cons]
  exact ⟨Field.needed_local text_local _ _, htext _ _, htext _ _, htext _ _, htext _ _, htext _ _,
    Field.optional_local Region.decoder_local _ _, List.forall_mem_nil _⟩

/-- Every field of a step has a place of its own. -/
theorem shape_separate : shape.Separate := by
  simp only [Shape.Separate, shape, List.pairwise_cons, List.forall_mem_cons]
  repeat' apply And.intro
  all_goals first
    | exact Field.optional_commutes _ _ fun _ _ _ => rfl
    | exact Field.needed_commutes _ _ fun _ _ _ => rfl
    | exact List.forall_mem_nil _
    | exact List.Pairwise.nil

theorem decoder_indifferent : Indifferent shape.decoder MaybeReordered :=
  (Shape.decoder_indifferent_reordered shape_local shape_separate).maybe

end Step

/-! ### Documents -/

namespace Camera

theorem decoder_indifferent : Indifferent shape.decoder MaybeReordered :=
  (Shape.decoder_indifferent_reordered shape_local shape_separate).maybe

/-- Camera documents that differ in the order of the members of their cameras. -/
def DocumentReordered : Rewriting :=
  InMembers (Under "lane_config" (InMembers (Under "cameras" (InItems MaybeReordered))))

theorem laneShape_local : ∀ f ∈ laneShape.fields, Local f.read := by
  simp only [laneShape, List.forall_mem_singleton]
  exact Field.needed_local (listOf_local (Shape.decoder_local shape_local)) _ _

theorem documentShape_local : ∀ f ∈ documentShape.fields, Local f.read := by
  simp only [documentShape, List.forall_mem_singleton]
  exact Field.needed_local (Shape.decoder_local laneShape_local) _ _

theorem documentShape_indifferent : Indifferent documentShape.decoder DocumentReordered := by
  refine Shape.decoder_indifferent documentShape_local ?_
  simp only [documentShape, List.forall_mem_singleton]
  refine Field.needed_indifferent (Shape.decoder_indifferent laneShape_local ?_) _ _
  simp only [laneShape, List.forall_mem_singleton]
  exact Field.needed_indifferent (listOf_indifferent (Shape.decoder_local shape_local)
    decoder_indifferent) _ _

theorem parseDocument_reordered {p q : Padded} (h : DocumentReordered p.text q.text) :
    SameSuccess (parseDocument p.string) (parseDocument q.string) :=
  documentShape_indifferent.whole (Shape.decoder_local documentShape_local) maxDepth
    (InMembers.isValue h) h

end Camera

namespace WorkloadMap

/-- Workload documents that differ in the order of the members of their steps. -/
def DocumentReordered : Rewriting :=
  InMembers (Under "workload_pipeline_map" (InMembers fun _ => InItems MaybeReordered))

theorem documentShape_local : ∀ f ∈ documentShape.fields, Local f.read := by
  simp only [documentShape, List.forall_mem_singleton]
  exact Field.needed_local (mapOf_local (listOf_local (Shape.decoder_local Step.shape_local))) _ _

theorem documentShape_indifferent : Indifferent documentShape.decoder DocumentReordered := by
  have hsteps := listOf_local (Shape.decoder_local Step.shape_local)
  refine Shape.decoder_indifferent documentShape_local ?_
  simp only [documentShape, List.forall_mem_singleton]
  exact Field.needed_indifferent (mapOf_indifferent hsteps fun _ =>
    listOf_indifferent (Shape.decoder_local Step.shape_local) Step.decoder_indifferent) _ _

theorem parseDocument_reordered {p q : Padded} (h : DocumentReordered p.text q.text) :
    SameSuccess (parseDocument p.string) (parseDocument q.string) :=
  (documentShape_indifferent.whole (Shape.decoder_local documentShape_local) maxDepth
    (InMembers.isValue h) h).map ofMembers

end WorkloadMap

/-! ### Runs -/

/-- Files that differ in the order of members at most: of cameras in the one document, of steps in the
other. The profiles are the same. -/
structure Settings.SameButOrder (settings : Settings) (disk disk' : Disk) : Prop where
  /-- The camera document. -/
  cameras : ∃ p q : Padded, disk.readText settings.cameraDocumentPath = .ok p.string ∧
    disk'.readText settings.cameraDocumentPath = .ok q.string ∧
    Camera.DocumentReordered p.text q.text
  /-- The workload document. -/
  workloads : ∃ p q : Padded, disk.readText settings.workloadDocumentPath = .ok p.string ∧
    disk'.readText settings.workloadDocumentPath = .ok q.string ∧
    WorkloadMap.DocumentReordered p.text q.text
  /-- The files of the profiles. -/
  profiles : ∀ entry ∈ Profiles.deviceFiles,
    disk.read (settings.deviceProfileDir.join entry.2) =
        disk'.read (settings.deviceProfileDir.join entry.2) ∧
      disk.has (settings.deviceProfileDir.join entry.2) =
        disk'.has (settings.deviceProfileDir.join entry.2)

theorem readDocument_reordered {α : Type} {disk disk' : Disk} {path : Path} {text text' : String}
    {parse : String → Except Json.Error α} (h : disk.readText path = .ok text)
    (h' : disk'.readText path = .ok text') (hparse : SameSuccess (parse text) (parse text'))
    (document : DocumentKind) :
    SameSuccess (readDocument disk document path parse) (readDocument disk' document path parse) := by
  intro a
  have ha := hparse a
  unfold readDocument
  simp only [h, h']
  cases hread : parse text <;> cases hread' : parse text' <;> simp_all

theorem Inputs.load_reordered {settings : Settings} {disk disk' : Disk}
    (h : settings.SameButOrder disk disk') :
    SameSuccess (Inputs.load disk settings) (Inputs.load disk' settings) := by
  obtain ⟨p, q, hp, hq, hcameras⟩ := h.cameras
  obtain ⟨p', q', hp', hq', hworkloads⟩ := h.workloads
  unfold Inputs.load
  refine (readDocument_reordered hp hq (Camera.parseDocument_reordered hcameras) _).bind
    fun _ _ => ?_
  refine (readDocument_reordered hp' hq' (WorkloadMap.parseDocument_reordered hworkloads) _).bind
    fun _ _ => ?_
  exact SameSuccess.refl _

theorem Profiles.load_sameFiles {settings : Settings} {disk disk' : Disk}
    (h : settings.SameButOrder disk disk') (env : Environment) :
    Profiles.load disk env settings.deviceProfileDir =
      Profiles.load disk' env settings.deviceProfileDir := by
  unfold Profiles.load
  refine List.foldl_ext _ _ _ fun acc entry hentry => ?_
  obtain ⟨hread, hhas⟩ := h.profiles entry hentry
  have hdevice : loadDevice disk env settings.deviceProfileDir acc.1 entry =
      loadDevice disk' env settings.deviceProfileDir acc.1 entry := by
    unfold loadDevice readTuning
    simp only [hread, hhas]
  rw [hdevice]

namespace Program

variable {args : Arguments} {env : Environment} {settings : Settings} {results : Option FileError}
  {disk disk' : Disk}

/-- A run of reordered documents fails as before, or does the very same. -/
theorem run_reordered (h : settings.SameButOrder disk disk') :
    let before := run args env settings results disk
    let after := run args env settings results disk'
    before.status = after.status ∧ (before.status = 0 → before = after) := by
  intro before after
  have hload := Inputs.load_reordered h
  refine ⟨run_status_congr (exists_congr fun inputs => ?_), fun hzero => ?_⟩
  · rw [← Inputs.load_eq_ok_iff, ← Inputs.load_eq_ok_iff]
    exact hload inputs
  · obtain ⟨inputs, hinputs⟩ := run_status_eq_zero_iff.mp hzero
    have hread := Inputs.load_eq_ok_iff.mpr hinputs
    have hcommand : settings.command disk env = settings.command disk' env := by
      funext count layout
      unfold Settings.command
      rw [hread, (hload inputs).mp hread, Profiles.load_sameFiles h]
    simp only [before, after]
    unfold run
    rw [hcommand]

/-- **Order of members.** Two objects with the same members in any order, known ones and unknown ones
of any nesting, written with any blanks, are read as the same camera or as none, and as the same step
or as none. Lists of such steps have the same signature. Documents that differ in the order of the
members of their cameras and their steps make the same run: its status is the same, and a run that
succeeds prints the same command and leaves the same log. -/
theorem member_order_irrelevant :
    (∀ p q : Padded, Reordered p.text q.text →
      SameSuccess (Camera.parse p.string) (Camera.parse q.string) ∧
      SameSuccess (Step.shape.parse p.string) (Step.shape.parse q.string)) ∧
    (∀ p q : Padded, InItems MaybeReordered p.text q.text →
      SameSuccess ((Step.parseList p.string).map Signature.ofSteps)
        ((Step.parseList q.string).map Signature.ofSteps)) ∧
    ∀ (settings : Settings) (disk disk' : Disk), settings.SameButOrder disk disk' →
      ∀ args env results,
        let before := run args env settings results disk
        let after := run args env settings results disk'
        before.status = after.status ∧ (before.status = 0 → before = after) := by
  refine ⟨fun p q h => ?_, fun p q h => ?_, fun settings disk disk' h args env results =>
    run_reordered h⟩
  · exact ⟨Camera.decoder_indifferent.whole (Shape.decoder_local Camera.shape_local) maxDepth
        h.isValue (.inr h),
      Step.decoder_indifferent.whole (Shape.decoder_local Step.shape_local) maxDepth
        h.isValue (.inr h)⟩
  · have hstep := Shape.decoder_local Step.shape_local
    have hlist := listOf_indifferent hstep Step.decoder_indifferent
    exact (hlist.whole (listOf_local hstep) maxDepth h.isValue h).map Signature.ofSteps

/-- The members of a camera the other way round, one of them with a number that no value could hold. -/
theorem member_order_irrelevant_reversed :
    let member (key : String) (value : List Char) : WrittenMember :=
      ⟨.bare (stringChars key), .bare value⟩
    let ms := [member "camera_id" ['7'], member "note" (listText .none [.bare "1e400".toList]),
      member "workloads" (stringChars "w")]
    let camera (ms : List WrittenMember) := Padded.bare (objectText .none ms)
    let document (ms : List WrittenMember) := Padded.bare (objectText .none
      [member "lane_config" (objectText .none [member "cameras" (listText .none [camera ms])])])
    let steps := Padded.bare (objectText .none
      [member "workload_pipeline_map" (objectText .none [member "w" (listText .none [])])])
    let settings := Settings.ofEnvironment (fun _ => none) "0"
    let disk (ms : List WrittenMember) : Disk :=
      { read := fun path =>
          if path = settings.cameraDocumentPath then .ok ((document ms).chars.map Char.toNat)
          else if path = settings.workloadDocumentPath then .ok (steps.chars.map Char.toNat)
          else .error .missing
        has := fun _ => false }
    (∀ c, Camera.parse (camera ms).string = .ok c ↔ Camera.parse (camera ms.reverse).string = .ok c) ∧
      (Camera.parse (camera ms.reverse).string).toOption =
        some { cameraId := some "7", workloads := .one "w" } ∧
      (run {} (fun _ => none) settings none (disk ms)).status = 0 ∧
      run {} (fun _ => none) settings none (disk ms) =
        run {} (fun _ => none) settings none (disk ms.reverse) := by
  intro member ms camera document steps settings disk
  have hms : ∀ m ∈ ms, m.WellFormed := by
    have hseven : IsValue ['7'] :=
      .number ⟨['7'], [], [], rfl, by decide, .inl rfl, .inl rfl⟩
    have hhuge : IsValue "1e400".toList :=
      .number ⟨['1'], [], "e400".toList, rfl, by decide, .inl rfl,
        .inr ⟨'e', [], "400".toList, rfl, by decide, by decide, by decide⟩⟩
    simp only [ms, List.forall_mem_cons]
    exact ⟨wellFormed_bare _ hseven,
      wellFormed_bare _ (.list _ _ (List.forall_mem_singleton.mpr hhuge)),
      wellFormed_bare _ (.string (isString_stringChars "w")), List.forall_mem_nil _⟩
  have hreordered : Reordered (camera ms).text (camera ms.reverse).text :=
    ⟨.none, .none, ms, ms.reverse, rfl, rfl, ms.reverse_perm.symm, hms⟩
  have hcamera := (member_order_irrelevant.1 _ _ hreordered).1
  have hread : (Camera.parse (camera ms).string).toOption =
      some { cameraId := some "7", workloads := .one "w" } := by
    decide +kernel
  have hlane : Camera.DocumentReordered (document ms).text (document ms.reverse).text := by
    have hitem := hreordered.isValue
    have hitems : InItems MaybeReordered (listText .none [camera ms])
        (listText .none [camera ms.reverse]) :=
      ⟨.none, .none, _, _, rfl, rfl, .cons ⟨hitem.1, hitem.2, .inr hreordered⟩ .nil⟩
    have hcameras := InMembers.under "cameras" hitems hitems.isValue
    exact InMembers.under "lane_config" hcameras hcameras.isValue
  have hmap : WorkloadMap.DocumentReordered steps.text steps.text := by
    have hitems : InItems MaybeReordered (listText .none []) (listText .none []) :=
      ⟨.none, .none, [], [], rfl, rfl, .nil⟩
    have hworkloads : InMembers (fun _ => InItems MaybeReordered)
        (objectText .none [member "w" (listText .none [])])
        (objectText .none [member "w" (listText .none [])]) :=
      ⟨.none, .none, _, _, rfl, rfl, .cons ⟨wellFormed_bare "w" hitems.isValue.1,
        wellFormed_bare "w" hitems.isValue.1, rfl, fun _ _ => hitems⟩ .nil⟩
    exact InMembers.under "workload_pipeline_map" hworkloads hworkloads.isValue
  have hdisk : settings.SameButOrder (disk ms) (disk ms.reverse) := by
    have hcameras (ns : List WrittenMember)
        (h : Text.textOfBytes ((document ns).chars.map Char.toNat) = some (document ns).string) :
        (disk ns).readText settings.cameraDocumentPath = .ok (document ns).string :=
      Disk.readText_eq_ok_iff.mpr ⟨_, if_pos rfl, h⟩
    have hworkloads (ns : List WrittenMember) :
        (disk ns).readText settings.workloadDocumentPath = .ok steps.string :=
      Disk.readText_eq_ok_iff.mpr ⟨steps.chars.map Char.toNat,
        (if_neg (by decide +kernel)).trans (if_pos rfl), by decide +kernel⟩
    have hprofiles : ∀ entry ∈ Profiles.deviceFiles,
        settings.deviceProfileDir.join entry.2 ≠ settings.cameraDocumentPath ∧
          settings.deviceProfileDir.join entry.2 ≠ settings.workloadDocumentPath := by
      decide +kernel
    refine ⟨⟨_, _, hcameras ms (by decide +kernel), hcameras ms.reverse (by decide +kernel), hlane⟩,
      ⟨steps, steps, hworkloads ms, hworkloads ms.reverse, hmap⟩, fun entry hentry => ⟨?_, rfl⟩⟩
    obtain ⟨hcamera, hworkload⟩ := hprofiles entry hentry
    simp only [disk, if_neg hcamera, if_neg hworkload]
  have hzero : (run {} (fun _ => none) settings none (disk ms)).status = 0 := by
    decide +kernel
  obtain ⟨-, hsame⟩ := member_order_irrelevant.2.2 settings (disk ms) (disk ms.reverse) hdisk {}
    (fun _ => none) none
  exact ⟨hcamera, SameSuccess.toOption_eq hcamera ▸ hread, hzero, hsame hzero⟩

end Program
end CameraGraph
