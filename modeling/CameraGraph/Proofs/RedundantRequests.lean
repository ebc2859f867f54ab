import CameraGraph.Proofs.Exclusion
import CameraGraph.Proofs.WorkloadGrouping

/-!
# CameraGraph.Proofs.RedundantRequests

Requests that add nothing to a graph.

A camera opens a branch for the first name of every signature. Any other name, whether there is
nothing to run under it or its steps agree with those of an earlier name, at most lengthens the list
of workloads that a branch serves, and compiling does not look at that list. So what a branch is
compiled from (`Branch.core`) depends on the names that open branches and on nothing else of a
request (`opening`), and deleting redundant names keeps them, in order, with their positions.
-/

namespace CameraGraph

/-! ### What branches are compiled from -/

/-- A branch without the list of workloads it serves. -/
def Branch.core (b : Branch) : Branch := { b with workloads := [] }

@[simp] theorem Branch.core_serve (σ : Signature) (name : String) (b : Branch) :
    (b.serve σ name).core = b.core := by
  unfold serve
  split <;> rfl

namespace Compiler

theorem compile_core (x : Compiler) (b : Branch) (last : Nat) :
    x.compile b.core last = x.compile b last := rfl

theorem compileAll_core (x : Compiler) (bs : List Branch) (last : Nat) :
    x.compileAll last (bs.map Branch.core) = x.compileAll last bs := by
  induction bs generalizing last with
  | nil => rfl
  | cons b rest ih =>
      simp only [List.map_cons, compileAll]
      rw [x.compile_core, ih]

end Compiler

/-! ### Redundant names -/

/-- A name as it is looked up. -/
def WorkloadRefs.normalName (name : String) : String := Text.lower (Text.trim name)

namespace WorkloadMap

variable {map : WorkloadMap} {seen : List String}

/-- A name that adds nothing to a request that has the names `seen` already. -/
inductive Redundant (map : WorkloadMap) (seen : List String) (name : String) : Prop
  /-- The document does not know it. -/
  | unknown (h : map.get? (WorkloadRefs.normalName name) = none)
  /-- It has no steps. -/
  | empty (h : map.get? (WorkloadRefs.normalName name) = some [])
  /-- Its steps agree with those of an earlier name. -/
  | covered {earlier : String} (hmem : earlier ∈ seen)
      (hagree : List.Forall₂ Step.Agrees (map.stepsOf (WorkloadRefs.normalName earlier))
        (map.stepsOf (WorkloadRefs.normalName name)))

/-- Requests of which the second lacks some redundant names of the first. Both go on behind the
names `seen`. -/
inductive Thinned (map : WorkloadMap) : List String → List String → List String → Prop
  | nil {seen : List String} : Thinned map seen [] []
  | keep {seen as bs : List String} (name : String) :
      Thinned map (seen ++ [name]) as bs → Thinned map seen (name :: as) (name :: bs)
  | drop {seen as bs : List String} {name : String} (h : map.Redundant seen name) :
      Thinned map (seen ++ [name]) as bs → Thinned map seen (name :: as) bs

theorem Thinned.refl (names : List String) : map.Thinned seen names names := by
  induction names generalizing seen with
  | nil => exact .nil
  | cons name rest ih => exact .keep name ih

/-- To delete one redundant name is to thin a request. -/
theorem Thinned.delete {before : List String} {name : String} (after : List String)
    (h : map.Redundant (seen ++ before) name) :
    map.Thinned seen (before ++ name :: after) (before ++ after) := by
  induction before generalizing seen with
  | nil =>
      rw [List.append_nil] at h
      exact .drop h (.refl after)
  | cons first rest ih =>
      refine .keep first (ih ?_)
      rwa [List.append_assoc]

theorem Thinned.sublist {as bs : List String} (h : map.Thinned seen as bs) : bs.Sublist as := by
  induction h with
  | nil => exact List.Sublist.refl []
  | keep name _ ih => exact ih.cons_cons name
  | drop _ _ ih => exact ih.cons _

theorem signatureOf_congr {m n : String}
    (h : List.Forall₂ Step.Agrees (map.stepsOf m) (map.stepsOf n)) :
    map.signatureOf m = map.signatureOf n := by
  rw [signatureOf, signatureOf, ← Signature.ofSteps_bare, ← Signature.ofSteps_bare (map.stepsOf n),
    Step.forall₂_agrees_iff.mp h]

theorem usable_congr {m n : String}
    (h : List.Forall₂ Step.Agrees (map.stepsOf m) (map.stepsOf n)) :
    map.usable m = map.usable n := by
  rw [usable, usable]
  generalize map.stepsOf m = as at h
  generalize map.stepsOf n = bs at h
  cases h <;> rfl

/-- A name opens a branch when the signatures `σs` have branches already: it has steps, of a new
signature. -/
def Opens (map : WorkloadMap) (σs : List Signature) (name : String) : Prop :=
  map.usable name = true ∧ map.signatureOf name ∉ σs

instance (map : WorkloadMap) (σs : List Signature) (name : String) :
    Decidable (map.Opens σs name) :=
  inferInstanceAs (Decidable (_ ∧ _))

/-- None of the names opens a branch any more. -/
def Covers (map : WorkloadMap) (σs : List Signature) (names : List String) : Prop :=
  ∀ n ∈ names, ¬map.Opens σs (WorkloadRefs.normalName n)

theorem Covers.snoc {σs σs' : List Signature} {name : String} (h : map.Covers σs seen)
    (hsub : σs ⊆ σs') (hname : ¬map.Opens σs' (WorkloadRefs.normalName name)) :
    map.Covers σs' (seen ++ [name]) := by
  intro n hn
  rcases List.mem_append.mp hn with hn | hn
  · exact fun hopens => h n hn ⟨hopens.1, fun hold => hopens.2 (hsub hold)⟩
  · rwa [List.mem_singleton.mp hn]

theorem not_opens_own (σs : List Signature) (name : String) :
    ¬map.Opens (σs ++ [map.signatureOf name]) name :=
  fun h => h.2 (List.mem_append_right _ List.mem_cons_self)

/-- A redundant name has nothing to run, or a signature that has a branch. -/
theorem Redundant.not_opens {name : String} (h : map.Redundant seen name) {σs : List Signature}
    (hseen : map.Covers σs seen) : ¬map.Opens σs (WorkloadRefs.normalName name) := by
  rintro ⟨husable, hnew⟩
  cases h with
  | unknown h => simp [usable, stepsOf, h] at husable
  | empty h => simp [usable, stepsOf, h] at husable
  | covered hmem hagree =>
      rw [← usable_congr hagree] at husable
      rw [← signatureOf_congr hagree] at hnew
      exact hseen _ hmem ⟨husable, hnew⟩

end WorkloadMap

/-! ### Branches that names open -/

namespace CameraSite

variable {site : CameraSite} {map : WorkloadMap}

/-- What is compiled from the branches that names open, one after another, when the signatures `σs`
have branches already. -/
def opening (site : CameraSite) (map : WorkloadMap) : List Signature → List String → List Branch
  | _, [] => []
  | σs, name :: rest =>
    if map.Opens σs name then
      (site.opened map σs.length name).core ::
        opening site map (σs ++ [map.signatureOf name]) rest
    else opening site map σs rest

/-- **One name** opens a branch if it has steps of a new signature, and changes no other. -/
theorem add_core {names : List String} {g : Grouping} (h : Groups site map names g)
    (name : String) :
    if map.Opens g.signatures name then
      (site.add map g name).branches.map Branch.core =
          g.branches.map Branch.core ++ [(site.opened map g.branches.length name).core] ∧
        (site.add map g name).signatures = g.signatures ++ [map.signatureOf name]
    else
      (site.add map g name).branches.map Branch.core = g.branches.map Branch.core ∧
        (site.add map g name).signatures = g.signatures := by
  cases hname : map.usable name with
  | false =>
      have hopens : ¬map.Opens g.signatures name := fun h => Bool.false_ne_true (hname ▸ h.1)
      rw [if_neg hopens, add_unusable hname]
      exact ⟨rfl, rfl⟩
  | true =>
      rw [add_usable hname]
      obtain ⟨-, ⟨hold, -, hbranches⟩ | ⟨hnew, -, hbranches⟩⟩ :=
        site.place_cases map h.inStep h.distinct name
      · have hopens : ¬map.Opens g.signatures name := fun h => h.2 hold
        rw [if_neg hopens, Grouping.signatures, hbranches]
        simp [Grouping.signatures, Function.comp_def]
      · have hopens : map.Opens g.signatures name := ⟨hname, hnew⟩
        rw [if_pos hopens, Grouping.signatures, hbranches]
        simp [Grouping.signatures, opened]

/-- **All names.** -/
theorem foldl_core {names : List String} {g : Grouping} (h : Groups site map names g)
    (more : List String) :
    (more.foldl (site.add map) g).branches.map Branch.core =
      g.branches.map Branch.core ++ site.opening map g.signatures more := by
  induction more generalizing names g with
  | nil => simp [opening]
  | cons name rest ih =>
      have hone := add_core h name
      rw [List.foldl_cons, ih (h.add name), opening]
      by_cases hopens : map.Opens g.signatures name
      · rw [if_pos hopens] at hone
        have hlength : g.signatures.length = g.branches.length := List.length_map _
        rw [if_pos hopens, hone.1, hone.2, hlength, List.append_assoc]
        rfl
      · rw [if_neg hopens] at hone
        rw [if_neg hopens, hone.1, hone.2]

theorem group_core (names : List String) :
    (site.group map names).branches.map Branch.core = site.opening map [] names :=
  foldl_core groups_nil names

theorem mem_opening {σs : List Signature} {names : List String} {b : Branch}
    (hb : b ∈ site.opening map σs names) : ∃ i name, b = (site.opened map i name).core := by
  induction names generalizing σs with
  | nil => exact absurd hb List.not_mem_nil
  | cons name rest ih =>
      rw [opening] at hb
      split at hb
      · rcases List.mem_cons.mp hb with rfl | hb
        · exact ⟨_, name, rfl⟩
        · exact ih hb
      · exact ih hb

/-- **Origin.** Every branch of a camera was opened by a name. -/
theorem mem_group {names : List String} {b : Branch} (hb : b ∈ (site.group map names).branches) :
    ∃ i name, b.core = (site.opened map i name).core := by
  have hcore : b.core ∈ (site.group map names).branches.map Branch.core := List.mem_map_of_mem hb
  rw [group_core] at hcore
  exact mem_opening hcore

/-- **Thinning.** Redundant names open no branch, and without them later names do the same. -/
theorem opening_thinned (site : CameraSite) {map : WorkloadMap} {seen as bs : List String}
    (h : map.Thinned seen as bs) {σs : List Signature} (hseen : map.Covers σs seen) :
    site.opening map σs (as.map WorkloadRefs.normalName) =
      site.opening map σs (bs.map WorkloadRefs.normalName) := by
  induction h generalizing σs with
  | nil => rfl
  | @keep seen as bs name _ ih =>
      simp only [List.map_cons, opening]
      by_cases hopens : map.Opens σs (WorkloadRefs.normalName name)
      · rw [if_pos hopens, if_pos hopens,
          ih (hseen.snoc (List.subset_append_left _ _) (WorkloadMap.not_opens_own _ _))]
      · rw [if_neg hopens, if_neg hopens, ih (hseen.snoc (List.Subset.refl _) hopens)]
  | @drop seen as bs name hredundant _ ih =>
      have hopens := hredundant.not_opens hseen
      rw [List.map_cons, opening, if_neg hopens, ih (hseen.snoc (List.Subset.refl _) hopens)]

end CameraSite

/-! ### Runs -/

/-- Where frames come from does not depend on what is asked for. -/
theorem Source.ofCamera_workloads (c : Camera) (refs : WorkloadRefs) (endpoint : Endpoint)
    (layout : ModelLayout) :
    Source.ofCamera { c with workloads := refs } endpoint layout =
      Source.ofCamera c endpoint layout := by
  have hid : ({ c with workloads := refs } : Camera).id = c.id := rfl
  have hfile : ({ c with workloads := refs } : Camera).fileRef = c.fileRef := rfl
  have huris : ({ c with workloads := refs } : Camera).legacyUris = c.legacyUris := rfl
  have hwidth : ({ c with workloads := refs } : Camera).frameWidth = c.frameWidth := rfl
  have hrate : ({ c with workloads := refs } : Camera).frameRate = c.frameRate := rfl
  simp only [Source.ofCamera, Source.streamUri, Source.streamName, hid, hfile, huris, hwidth, hrate]

namespace Graph

theorem cameraGrouping_branches (x : Compiler) (map : WorkloadMap) (c : Camera) (i : Nat) :
    (cameraGrouping x map (c, i)).branches =
      ((CameraSite.ofCamera i c (Source.ofCamera c x.settings.endpoint x.layout).1).group map
        c.workloads.normalized).branches := by
  simp only [cameraGrouping, Grouping.ofCamera]

/-- Cameras that differ at most in redundant names of a request that counts. -/
inductive ThinnedCamera (marker : String) (map : WorkloadMap) (c : Camera) : Camera → Prop
  | same : ThinnedCamera marker map c c
  | thin {refs : WorkloadRefs} (hcounts : isExcluded marker c = false)
      (h : map.Thinned [] c.workloads.names refs.names) :
      ThinnedCamera marker map c { c with workloads := refs }

namespace ThinnedCamera

variable {marker : String} {map : WorkloadMap} {c d : Camera}

/-- A camera that counts does so with fewer names. -/
theorem isExcluded_eq (h : ThinnedCamera marker map c d) :
    isExcluded marker d = isExcluded marker c := by
  cases h with
  | same => rfl
  | thin hcounts hthin =>
      rw [hcounts]
      rw [isExcluded_eq_false_iff] at hcounts ⊢
      exact fun name hname => hcounts name (hthin.sublist.subset hname)

theorem core_eq (h : ThinnedCamera marker map c d) (x : Compiler) (i : Nat) :
    (cameraGrouping x map (d, i)).branches.map Branch.core =
      (cameraGrouping x map (c, i)).branches.map Branch.core := by
  cases h with
  | same => rfl
  | @thin refs hcounts hthin =>
      have hsite : CameraSite.ofCamera i { c with workloads := refs }
          (Source.ofCamera { c with workloads := refs } x.settings.endpoint x.layout).1 =
          CameraSite.ofCamera i c (Source.ofCamera c x.settings.endpoint x.layout).1 := by
        rw [Source.ofCamera_workloads]
        rfl
      rw [cameraGrouping_branches, cameraGrouping_branches, hsite, CameraSite.group_core,
        CameraSite.group_core]
      exact (CameraSite.opening_thinned _ hthin fun n hn => absurd hn List.not_mem_nil).symm

end ThinnedCamera

variable {x : Compiler} {a b : Inputs}

theorem eligible_thinned {marker : String} {map : WorkloadMap} {as bs : List Camera}
    (h : List.Forall₂ (ThinnedCamera marker map) as bs) :
    List.Forall₂ (ThinnedCamera marker map) (eligible as marker) (eligible bs marker) := by
  induction h with
  | nil => exact .nil
  | @cons c d as bs hcd _ ih =>
      rw [eligible, eligible, List.filter_cons, List.filter_cons, hcd.isExcluded_eq]
      cases isExcluded marker c with
      | false => exact .cons hcd ih
      | true => exact ih

/-- A round compiles the same branches. -/
theorem roundBranches_core_congr (hworkloads : b.workloads = a.workloads)
    (h : List.Forall₂ (ThinnedCamera x.settings.excludeWorkload a.workloads) a.cameras b.cameras) :
    (roundBranches x b).map Branch.core = (roundBranches x a).map Branch.core := by
  have hkept := eligible_thinned h
  simp only [roundBranches, placedCameras, hworkloads, List.map_flatMap]
  generalize eligible a.cameras x.settings.excludeWorkload = as at hkept
  generalize eligible b.cameras x.settings.excludeWorkload = bs at hkept
  -- Positions are counted from any number on, so that the induction goes through.
  generalize 0 = k
  induction hkept generalizing k with
  | nil => rfl
  | cons hcd _ ih =>
      simp only [List.zipIdx_cons, List.flatMap_cons]
      rw [hcd.core_eq x k, ih]

theorem copies_map {α β : Type} (f : α → β) (n : Nat) (l : List α) :
    copies n (l.map f) = (copies n l).map f := by
  rw [copies, copies, List.map_flatten, List.map_replicate]

/-- **Redundant requests.** A request is thinned by deleting from it, one or more times, a name that
the document does not know, a name without steps, or a name whose steps agree position by position
with those of an earlier name. Whatever requests of cameras that count are thinned, the graph stays
the same for every number of rounds, and so does its command in either layout. -/
theorem redundant_requests_without_influence (x : Compiler) (inputs : Inputs) (count : Nat) :
    let map := inputs.workloads
    (∀ before name after, map.Redundant before name →
      map.Thinned [] (before ++ name :: after) (before ++ after)) ∧
    ∀ cameras, List.Forall₂ (ThinnedCamera x.settings.excludeWorkload map) inputs.cameras cameras →
      let thinned : Inputs := { inputs with cameras }
      (compile x thinned count).1 = (compile x inputs count).1 ∧
        ∀ layout, (compile x thinned count).1.command layout =
          (compile x inputs count).1.command layout := by
  intro map
  refine ⟨fun before name after h => .delete after (by rwa [List.nil_append]), ?_⟩
  intro cameras h thinned
  have hround : (roundBranches x thinned).map Branch.core =
      (roundBranches x inputs).map Branch.core :=
    roundBranches_core_congr (a := inputs) (b := thinned) rfl h
  have hbranches : x.compileAll 0 (copies count (roundBranches x thinned)) =
      x.compileAll 0 (copies count (roundBranches x inputs)) := by
    rw [← x.compileAll_core, ← copies_map, hround, copies_map, x.compileAll_core]
  have hgraph : (compile x thinned count).1 = (compile x inputs count).1 := by
    rw [compile_eq, compile_eq, hbranches]
  exact ⟨hgraph, fun layout => by rw [hgraph]⟩

/-- Behind the first name of a request, one that nobody knows, one without steps, one whose steps
differ in a script only, and the first once more. -/
theorem redundant_requests_without_influence_behind_first :
    let x : Compiler := ⟨Settings.ofEnvironment (fun _ => none) "0", ⟨"/m", "/v"⟩, {}⟩
    let map : WorkloadMap :=
      ⟨[("count", [{ kind := .detect, module := some "m.py" }]), ("idle", []),
        ("watch", [{ kind := .detect }])]⟩
    let camera : Camera :=
      { cameraId := some "a", workloads := .many ["Watch", "ghost", "idle", " COUNT", "watch"] }
    let inputs : Inputs := ⟨[camera, { workloads := .one "lp_vlm" }], map⟩
    let cameras : List Camera :=
      [{ camera with workloads := .one "Watch" }, { workloads := .one "lp_vlm" }]
    List.Forall₂ (ThinnedCamera x.settings.excludeWorkload map) inputs.cameras cameras ∧
      (compile x { inputs with cameras } 2).1.command .multiline =
        (compile x inputs 2).1.command .multiline := by
  intro x map camera inputs cameras
  have hsteps : map.stepsOf (WorkloadRefs.normalName "Watch") = [{ kind := .detect }] := by
    decide +kernel
  have hcount : map.stepsOf (WorkloadRefs.normalName " COUNT") =
      [{ kind := .detect, module := some "m.py" }] := by
    decide +kernel
  have hagain : map.stepsOf (WorkloadRefs.normalName "watch") = [{ kind := .detect }] := by
    decide +kernel
  have hseen : "Watch" ∈ ["Watch", "ghost", "idle"] := List.mem_cons_self
  have hseen' : "Watch" ∈ ["Watch", "ghost", "idle", " COUNT"] := List.mem_cons_self
  have hthin : map.Thinned [] ["Watch", "ghost", "idle", " COUNT", "watch"] ["Watch"] := by
    refine .keep "Watch" (.drop (.unknown ?_) (.drop (.empty ?_)
      (.drop (.covered hseen ?_) (.drop (.covered hseen' ?_) .nil))))
    · decide +kernel
    · decide +kernel
    · rw [hsteps, hcount]
      exact .cons ⟨rfl, rfl, rfl, rfl⟩ .nil
    · rw [hsteps, hagain]
      exact .cons ⟨rfl, rfl, rfl, rfl⟩ .nil
  have hcounts : isExcluded x.settings.excludeWorkload camera = false := by decide +kernel
  have hcameras :
      List.Forall₂ (ThinnedCamera x.settings.excludeWorkload map) inputs.cameras cameras :=
    .cons (.thin hcounts hthin) (.cons .same .nil)
  exact ⟨hcameras,
    ((redundant_requests_without_influence x inputs 2).2 cameras hcameras).2 .multiline⟩

end Graph
end CameraGraph
