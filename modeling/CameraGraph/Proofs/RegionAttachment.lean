import CameraGraph.Proofs.ChainParts

/-!
# CameraGraph.Proofs.RegionAttachment

Which regions are attached to frames, and where.

Regions are attached once, straight behind the element that decodes frames, and each of them once,
however many steps ask for it: as it is spelled where it appears first (`FirstAppearances`). A
detection that is restricted to a region relies on that element in front of it. Nothing else in a
chain has regions, since no step and no source has a key of that name.
-/

namespace CameraGraph

/-! ### Equality of regions -/

theorem Binary64.same_refl (a : Binary64) : a.same a = true := by
  simp [Binary64.same]

theorem Binary64.same_trans {a b c : Binary64} (hab : a.same b = true) (hbc : b.same c = true) :
    a.same c = true := by
  simp only [Binary64.same, Bool.and_eq_true, Bool.or_eq_true, beq_iff_eq] at hab hbc ⊢
  obtain ⟨hmagnitude, hsign⟩ := hab
  rw [hmagnitude] at hsign ⊢
  refine ⟨hbc.1, ?_⟩
  rcases hsign with hsign | hzero
  · rw [hsign]
    exact hbc.2
  · exact .inr hzero

namespace Json.Number

theorem same_refl (a : Number) : a.same a = true := by
  cases a with
  | integer z => exact beq_self_eq_true z
  | real a => exact a.same_refl

theorem same_trans {a b c : Number} (hab : a.same b = true) (hbc : b.same c = true) :
    a.same c = true := by
  cases a with
  | integer a =>
      cases b with
      | integer b =>
          rw [eq_of_beq hab]
          exact hbc
      | real b => exact Bool.noConfusion hab
  | real a =>
      cases b with
      | integer b => exact Bool.noConfusion hab
      | real b =>
          cases c with
          | integer c => exact Bool.noConfusion hbc
          | real c => exact Binary64.same_trans hab hbc

end Json.Number

namespace Region

theorem same_refl (a : Region) : a.same a = true := by
  simp [same, Json.Number.same_refl]

theorem same_trans {a b c : Region} (hab : a.same b = true) (hbc : b.same c = true) :
    a.same c = true := by
  simp only [same, Bool.and_eq_true] at hab hbc ⊢
  obtain ⟨⟨⟨hx, hy⟩, hx2⟩, hy2⟩ := hab
  obtain ⟨⟨⟨hx', hy'⟩, hx2'⟩, hy2'⟩ := hbc
  exact ⟨⟨⟨Json.Number.same_trans hx hx', Json.Number.same_trans hy hy'⟩,
    Json.Number.same_trans hx2 hx2'⟩, Json.Number.same_trans hy2 hy2'⟩

end Region

/-! ### First appearances -/

/-- What is left of some regions when each of them is kept where it appears first. -/
structure FirstAppearances (regions kept : List Region) : Prop where
  /-- Each region equals one that is kept. -/
  covered : ∀ r ∈ regions, ∃ k ∈ kept, k.same r = true
  /-- No two that are kept are equal. -/
  apart : kept.Pairwise fun a b => a.same b = false
  /-- What is kept is the first of the regions that equal it, -/
  first : ∀ k ∈ kept, regions.find? (·.same k) = some k
  /-- and stands in the order of these. -/
  inOrder : kept.Pairwise fun a b => regions.findIdx (·.same a) < regions.findIdx (·.same b)

namespace FirstAppearances

variable {regions kept : List Region} {r : Region}

theorem nil : FirstAppearances [] [] where
  covered := fun _ hr => absurd hr List.not_mem_nil
  apart := .nil
  first := fun _ hk => absurd hk List.not_mem_nil
  inOrder := .nil

theorem mem (h : FirstAppearances regions kept) {k : Region} (hk : k ∈ kept) : k ∈ regions :=
  List.mem_of_find?_eq_some (h.first k hk)

/-- Where something that is kept appears first does not depend on what comes behind. -/
theorem findIdx_append (h : FirstAppearances regions kept) {k : Region} (hk : k ∈ kept)
    (more : List Region) :
    (regions ++ more).findIdx (·.same k) = regions.findIdx (·.same k) ∧
      regions.findIdx (·.same k) < regions.length := by
  have hlt : regions.findIdx (·.same k) < regions.length :=
    List.findIdx_lt_length_of_exists ⟨k, h.mem hk, k.same_refl⟩
  exact ⟨by rw [List.findIdx_append, if_pos hlt], hlt⟩

theorem inOrder_append (h : FirstAppearances regions kept) (more : List Region) :
    kept.Pairwise fun a b =>
      (regions ++ more).findIdx (·.same a) < (regions ++ more).findIdx (·.same b) := by
  refine h.inOrder.imp_of_mem fun {a b} ha hb hlt => ?_
  rw [(h.findIdx_append ha more).1, (h.findIdx_append hb more).1]
  exact hlt

theorem first_append (h : FirstAppearances regions kept) (more : List Region) :
    ∀ k ∈ kept, (regions ++ more).find? (·.same k) = some k := by
  intro k hk
  rw [List.find?_append, h.first k hk, Option.some_or]

/-- A region that equals one that is kept is left out. -/
theorem repeated (h : FirstAppearances regions kept) (hr : ∃ k ∈ kept, k.same r = true) :
    FirstAppearances (regions ++ [r]) kept where
  covered := by
    intro q hq
    rcases List.mem_append.mp hq with hq | hq
    · exact h.covered q hq
    · rw [List.mem_singleton.mp hq]
      exact hr
  apart := h.apart
  first := h.first_append [r]
  inOrder := h.inOrder_append [r]

/-- A region that equals none that is kept equals none that came before it. -/
theorem find?_eq_none (h : FirstAppearances regions kept) (hr : ∀ k ∈ kept, k.same r = false) :
    regions.find? (·.same r) = none := by
  rw [List.find?_eq_none]
  intro q hq hsame
  obtain ⟨k, hk, hkq⟩ := h.covered q hq
  exact Bool.noConfusion ((hr k hk).symm.trans (Region.same_trans hkq hsame))

/-- Such a region is kept behind the others. -/
theorem opened (h : FirstAppearances regions kept) (hr : ∀ k ∈ kept, k.same r = false) :
    FirstAppearances (regions ++ [r]) (kept ++ [r]) where
  covered := by
    intro q hq
    rcases List.mem_append.mp hq with hq | hq
    · obtain ⟨k, hk, hsame⟩ := h.covered q hq
      exact ⟨k, List.mem_append_left _ hk, hsame⟩
    · rw [List.mem_singleton.mp hq]
      exact ⟨r, List.mem_append_right _ List.mem_cons_self, r.same_refl⟩
  apart := by
    refine List.pairwise_append.mpr ⟨h.apart, List.pairwise_singleton _ _, ?_⟩
    intro k hk q hq
    rw [List.mem_singleton.mp hq]
    exact hr k hk
  first := by
    intro k hk
    rcases List.mem_append.mp hk with hk | hk
    · exact h.first_append [r] k hk
    · rw [List.mem_singleton.mp hk, List.find?_append, h.find?_eq_none hr, Option.none_or]
      exact List.find?_cons_of_pos r.same_refl
  inOrder := by
    refine List.pairwise_append.mpr ⟨h.inOrder_append [r], List.pairwise_singleton _ _, ?_⟩
    intro k hk q hq
    obtain ⟨hindex, hlt⟩ := h.findIdx_append hk [r]
    have hnone : regions.findIdx (·.same r) = regions.length :=
      List.findIdx_eq_length.mpr fun q hq => by
        simpa using List.find?_eq_none.mp (h.find?_eq_none hr) q hq
    have hlast : (regions ++ [r]).findIdx (·.same r) =
        [r].findIdx (·.same r) + regions.length := by
      rw [List.findIdx_append, if_neg (by omega)]
    rw [List.mem_singleton.mp hq, hindex, hlast]
    omega

/-- Of regions that are all one, one is kept. -/
theorem eq_singleton (h : FirstAppearances regions kept) (hne : regions ≠ [])
    (hall : ∀ q ∈ regions, q = r) : kept = [r] := by
  have hkept : ∀ k ∈ kept, k = r := fun k hk => hall k (h.mem hk)
  cases kept with
  | nil =>
      obtain ⟨q, hq⟩ := List.exists_mem_of_ne_nil regions hne
      obtain ⟨k, hk, -⟩ := h.covered q hq
      exact absurd hk List.not_mem_nil
  | cons k rest =>
      obtain rfl : k = r := hkept k List.mem_cons_self
      cases rest with
      | nil => rfl
      | cons l rest =>
          have hapart := List.rel_of_pairwise_cons h.apart List.mem_cons_self
          rw [hkept l (List.mem_cons_of_mem _ List.mem_cons_self), k.same_refl] at hapart
          exact Bool.noConfusion hapart

end FirstAppearances

namespace Region

/-- Keeping goes on behind regions that were seen before. -/
theorem foldl_firstAppearances {seen kept : List Region} (h : FirstAppearances seen kept)
    (regions : List Region) : FirstAppearances (seen ++ regions)
      (regions.foldl (fun kept r => if kept.any (·.same r) then kept else kept ++ [r]) kept) := by
  induction regions generalizing seen kept with
  | nil => rwa [List.append_nil]
  | cons r rest ih =>
      rw [List.foldl_cons, List.append_cons]
      cases hany : kept.any (·.same r) with
      | true => exact ih (h.repeated (List.any_eq_true.mp hany))
      | false => exact ih (h.opened fun k hk => by simpa using List.any_eq_false.mp hany k hk)

/-- **Distinct regions** are the first appearances. -/
theorem distinct_firstAppearances (regions : List Region) :
    FirstAppearances regions (distinct regions) :=
  foldl_firstAppearances .nil regions

end Region

/-! ### Chains -/

namespace Compiler

variable (x : Compiler) (b : Branch) (last : Nat)

theorem chainValues_roi_eq_nil {es : List Element} (h : chainValues "roi" es = []) :
    ∀ e ∈ es, e.values "roi" = [] :=
  List.flatMap_eq_nil_iff.mp h

theorem branchEnd_roi (n : Nat) : chainValues "roi" (branchEnd b n) = [] := by
  unfold branchEnd
  cases hasTransform b.steps <;> simp

theorem values_detector_region (p : Place) (n : Nat) (s : BoundStep) :
    (x.detector p n s).values "inference-region" = if s.step.region.isSome then ["1"] else [] := by
  unfold detector
  cases s.step.region <;> simp [values_withModel]

/-- Regions where they belong in the chain of a branch. -/
structure RegionsAttached : Prop where
  /-- The chain is the one that is marked. -/
  elements : (x.markedChain b last).map Prod.snd = (x.compile b last).1.chain
  /-- No element has regions if no step has. -/
  absent : (∀ s ∈ b.steps, s.step.region = none) →
    ∀ e ∈ (x.compile b last).1.chain, e.values "roi" = []
  /-- Otherwise one element has: it stands behind the element that decodes frames, a queue stands
  behind it, and what it lists are the regions of the branch. -/
  attached : (∃ s ∈ b.steps, s.step.region ≠ none) → ∃ attach after,
    (x.compile b last).1.chain = (x.sourceElements last b.source).1 ++
      element (x.decoder (firstDevice b.steps)) :: attach :: .queue :: after ∧
    attach.factory = "gvaattachroi" ∧
    attach.values "roi" = (regionsOf b.steps).map Region.text ∧
    ∀ e ∈ (x.sourceElements last b.source).1 ++
      element (x.decoder (firstDevice b.steps)) :: .queue :: after, e.values "roi" = []
  /-- These are the regions of its steps, each where it appears first. -/
  listed : FirstAppearances (b.steps.filterMap (·.step.region)) (regionsOf b.steps)
  /-- A detection is told to use regions exactly if its step has one, and that one is attached in
  front of it. -/
  detects : ∀ i s, b.steps[i]? = some s → s.step.kind = .detect → ∃ before e after,
    x.markedChain b last = before ++ (.step i, e) :: after ∧ (∀ m ∈ before, m.1 ≠ .step i) ∧
    e.factory = "gvadetect" ∧
    e.values "inference-region" = (if s.step.region.isSome then ["1"] else []) ∧
    ∀ r, s.step.region = some r → ∃ m ∈ before, m.2.factory = "gvaattachroi" ∧
      ∃ k : Region, k.same r = true ∧ k.text ∈ m.2.values "roi"

/-- What stands around the element that attaches regions has none. -/
theorem others_roi : chainValues "roi" ((x.sourceElements last b.source).1 ++
    element (x.decoder (firstDevice b.steps)) :: .queue ::
      ((x.addStages b.place [] true (last + 1) b.steps).1 ++
        branchEnd b (last + b.numbers))) = [] := by
  have hq : Element.queue.values "roi" = [] := values_queue (by decide)
  simp [hq, x.sourceElements_values hq (by decide), x.addStages_values _ hq (by decide),
    branchEnd_roi]

theorem exists_region_iff {steps : List BoundStep} :
    (∃ s ∈ steps, s.step.region ≠ none) ↔ regionsOf steps ≠ [] := by
  rw [Ne, regionsOf_eq_nil_iff, hasRegion]
  simp [Option.isSome_iff_ne_none]

/-- Steps that all have one region come down to it. -/
theorem regionsOf_eq_singleton {steps : List BoundStep} {r : Region} (hne : steps ≠ [])
    (hall : ∀ s ∈ steps, s.step.region = some r) : regionsOf steps = [r] := by
  refine (Region.distinct_firstAppearances _).eq_singleton ?_ ?_
  · obtain ⟨s, hs⟩ := List.exists_mem_of_ne_nil steps hne
    exact List.ne_nil_of_mem (List.mem_filterMap.mpr ⟨s, hs, hall s hs⟩)
  · intro q hq
    obtain ⟨s, hs, hregion⟩ := List.mem_filterMap.mp hq
    exact Option.some.inj (hregion.symm.trans (hall s hs))

/-- A region of a step is attached in front of all stages. -/
theorem exists_attacher {s : BoundStep} (hs : s ∈ b.steps) {r : Region}
    (hr : s.step.region = some r) : ∃ m ∈ x.markedFront b last, m.2.factory = "gvaattachroi" ∧
      ∃ k : Region, k.same r = true ∧ k.text ∈ m.2.values "roi" := by
  have hne : regionsOf b.steps ≠ [] :=
    exists_region_iff.mp ⟨s, hs, by simp [hr]⟩
  obtain ⟨k, hk, hsame⟩ :=
    (Region.distinct_firstAppearances (b.steps.filterMap (·.step.region))).covered r
      (List.mem_filterMap.mpr ⟨s, hs, hr⟩)
  refine ⟨(.regions, attacher (regionsOf b.steps)), ?_, attacher_factory _, k, hsame, ?_⟩
  · rw [markedFront, attachRegions_eq hne]
    exact List.mem_append_right _ List.mem_cons_self
  · rw [attacher_roi]
    exact List.mem_map_of_mem hk

/-- Each branch has its regions where they belong, whatever its steps are. -/
theorem compile_regionsAttached : x.RegionsAttached b last where
  elements := x.markedChain_elements b last
  absent := by
    intro hnone
    have hnil : regionsOf b.steps = [] := by
      by_contra hne
      obtain ⟨s, hs, hregion⟩ := exists_region_iff.mpr hne
      exact hregion (hnone s hs)
    refine chainValues_roi_eq_nil ?_
    have hq : Element.queue.values "roi" = [] := values_queue (by decide)
    have hothers := x.others_roi b last
    rw [x.compile_chain, hnil]
    simpa [attachRegions, hq] using hothers
  attached := by
    intro hsome
    have hne := exists_region_iff.mp hsome
    refine ⟨attacher (regionsOf b.steps), _, ?_, attacher_factory _, attacher_roi _,
      chainValues_roi_eq_nil (x.others_roi b last)⟩
    rw [x.compile_chain, attachRegions_eq hne]
    simp
  listed := Region.distinct_firstAppearances _
  detects := by
    intro i s hs hkind
    obtain ⟨before, after, hblock, -, hothers⟩ := x.markedChain_block b last hs
    obtain ⟨n, rest, hstage⟩ : ∃ n rest,
        (x.stage b.place (numberBefore (last + 1) b.steps i) s).1 =
          x.detector b.place n s :: rest := by
      rw [stage, hkind]
      exact ⟨_, _, rfl⟩
    have hchain : x.markedChain b last = x.markedFront b last ++ before ++
        (.step i, x.detector b.place n s) :: ((Part.step i).marks rest ++ after) := by
      rw [hblock, hstage, Part.marks_cons, List.append_assoc, List.cons_append]
    refine ⟨_, _, _, hchain, ?_, x.factory_detector _ _ _, x.values_detector_region _ _ _, ?_⟩
    · exact fun m hm => hothers m (List.mem_append_left _ hm)
    · intro r hr
      obtain ⟨m, hm, hattached⟩ := x.exists_attacher b last (List.mem_of_getElem? hs) hr
      exact ⟨m, List.mem_append_left _ hm, hattached⟩

end Compiler

/-! ### Branches of cameras -/

/-- What regions the steps of a branch of a camera have: the camera's if it has one, their own
otherwise. -/
structure Branch.RegionsBound (b : Branch) (camera : Camera) (map : WorkloadMap) : Prop where
  /-- Its steps are those of its first workload. -/
  bound : ∃ first, b.workloads.head? = some first ∧
    b.steps.map (·.step.region) = (map.stepsOf first).map fun s => camera.region.or s.region
  /-- The region of the camera is then the only one. -/
  override : ∀ r, camera.region = some r →
    (∃ s ∈ b.steps, s.step.region ≠ none) ∧ Compiler.regionsOf b.steps = [r]

/-- **Regions.** For every camera, request and map: each branch of the camera, compiled from whatever
number, has its regions where they belong, and they are the camera's if it has any. -/
theorem Grouping.regions_attached (settings : Settings) (layout : ModelLayout) (index : Nat)
    (camera : Camera) (names : List String) (map : WorkloadMap) (b : Branch)
    (hb : b ∈ (Grouping.ofCamera settings layout index camera names map).branches)
    (x : Compiler) (last : Nat) : x.RegionsAttached b last ∧ b.RegionsBound camera map := by
  refine ⟨x.compile_regionsAttached b last, ?_⟩
  let site := CameraSite.ofCamera index camera (Source.ofCamera camera settings.endpoint layout).1
  have hgroups : CameraSite.Groups site map names (site.group map names) :=
    CameraSite.groups_group names
  obtain ⟨first, hfirst, hsteps⟩ := hgroups.steps b hb
  have hregions : b.steps.map (·.step.region) =
      (map.stepsOf first).map fun s => camera.region.or s.region := by
    rw [hsteps, CameraSite.bind, List.map_map]
    rfl
  refine ⟨⟨first, hfirst, hregions⟩, fun r hr => ?_⟩
  have hall : ∀ s ∈ b.steps, s.step.region = some r := by
    intro s hs
    have hmem : s.step.region ∈ b.steps.map (·.step.region) := List.mem_map_of_mem hs
    rw [hregions, hr] at hmem
    obtain ⟨t, -, ht⟩ := List.mem_map.mp hmem
    exact ht.symm
  have hone := Compiler.regionsOf_eq_singleton (hgroups.steps_ne_nil hb) hall
  refine ⟨Compiler.exists_region_iff.mpr ?_, hone⟩
  rw [hone]
  exact List.cons_ne_nil r []

/-- Four steps with three regions, two of which differ in the spelling of one number only. -/
theorem Grouping.regions_attached_once :
    let x : Compiler := ⟨Settings.ofEnvironment (fun _ => none) "0", ⟨"/m", "/v"⟩, {}⟩
    let camera : Camera := { cameraId := some "a" }
    let map : WorkloadMap := ⟨[("watch",
      [{ kind := .detect, region := some { x2 := .integer 4 } },
        { kind := .classify, region := some {} },
        { kind := .transform },
        { kind := .detect, region := some { x2 := .integer 4 } },
        { kind := .detect, region := some { x := .real (.zero false) } }])]⟩
    ∃ b ∈ (Grouping.ofCamera x.settings x.layout 0 camera ["watch"] map).branches,
      (x.RegionsAttached b 0 ∧ b.RegionsBound camera map) ∧
        chainValues "roi" (x.compile b 0).1.chain = ["0,0,4,1", "0,0,1,1", "0.0,0,1,1"] ∧
        chainValues "inference-region" (x.compile b 0).1.chain = ["1", "1", "1", "1"] := by
  intro x camera map
  have hvalues : (Grouping.ofCamera x.settings x.layout 0 camera ["watch"] map).branches.map
      (fun b => (chainValues "roi" (x.compile b 0).1.chain,
        chainValues "inference-region" (x.compile b 0).1.chain)) =
      [(["0,0,4,1", "0,0,1,1", "0.0,0,1,1"], ["1", "1", "1", "1"])] := by decide +kernel
  obtain ⟨b, hb, hroi⟩ := List.mem_map.mp (hvalues ▸ List.mem_cons_self)
  refine ⟨b, hb, Grouping.regions_attached x.settings x.layout 0 camera ["watch"] map b hb x 0, ?_⟩
  exact ⟨congrArg Prod.fst hroi, congrArg Prod.snd hroi⟩

end CameraGraph
