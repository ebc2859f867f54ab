import CameraGraph.Proofs.SignatureEncoding
import CameraGraph.Branch.Grouping
import Mathlib.Data.List.Nodup

/-!
# CameraGraph.Proofs.WorkloadGrouping

Grouping splits the workloads of a camera by what their steps agree on.

Names are taken one by one, and the index of signatures is kept in step with the branches
(`Grouping.InStep`). With that, a name with steps is either added to the one branch of its signature
or opens a branch behind all others (`place_cases`), and `Groups` says what holds of the branches
after any names: each one has exactly the names of its signature so far. What the signatures stand
for comes in at the end only, where equal signatures are steps that agree (`ofCamera_partitions`).
-/

namespace CameraGraph

/-! ### Lists by key -/

/-- The items of a list, taken key by key. -/
theorem flatMap_filter_perm {α β : Type} [DecidableEq β] (key : α → β) (keys : List β)
    (hdistinct : keys.Nodup) (as : List α) (hkeys : ∀ a ∈ as, key a ∈ keys) :
    (keys.flatMap fun k => as.filter fun a => key a = k).Perm as := by
  induction keys generalizing as with
  | nil =>
      rw [List.eq_nil_iff_forall_not_mem.mpr fun a ha => absurd (hkeys a ha) List.not_mem_nil]
      exact List.Perm.refl _
  | cons k rest ih =>
      obtain ⟨hk, hrest⟩ := List.nodup_cons.mp hdistinct
      -- The induction hypothesis is used on what the first key leaves.
      have hleft := ih hrest (as.filter fun a => !decide (key a = k)) fun a ha => by
        obtain ⟨hmem, hne⟩ := List.mem_filter.mp ha
        have hcons := List.mem_cons.mp (hkeys a hmem)
        simpa using hcons.resolve_left (by simpa using hne)
      have hsame : (rest.flatMap fun k' =>
          (as.filter fun a => !decide (key a = k)).filter fun a => key a = k') =
          rest.flatMap fun k' => as.filter fun a => key a = k' := by
        refine List.flatMap_congr fun k' hk' => ?_
        rw [List.filter_filter]
        refine List.filter_congr fun a _ => ?_
        have hne : k' ≠ k := fun heq => hk (heq ▸ hk')
        by_cases ha : key a = k' <;> simp [ha, hne]
      rw [hsame] at hleft
      rw [List.flatMap_cons]
      exact (hleft.append_left _).trans (List.filter_append_perm ..)

/-! ### Workloads by name -/

namespace WorkloadMap

variable (map : WorkloadMap)

/-- The steps of a name; none for a name that the document does not know. -/
def stepsOf (name : String) : List Step := (map.get? name).getD []

/-- Whether there is anything to run under a name. -/
def usable (name : String) : Bool := !(map.stepsOf name).isEmpty

/-- The signature of the steps of a name. -/
def signatureOf (name : String) : Signature := .ofSteps (map.stepsOf name)

/-- The names that a branch of the signature `σ` serves. -/
def served (σ : Signature) (names : List String) : List String :=
  names.filter fun name => map.usable name && map.signatureOf name = σ

/-- A map that a document can give: every kind stands for some name. -/
def Named : Prop := ∀ entry ∈ map.entries, ∀ s ∈ entry.2, s.kind.Named

variable {map}

/-- The steps of a name are listed under it. -/
theorem mem_stepsOf {name : String} {s : Step} (hs : s ∈ map.stepsOf name) :
    ∃ entry ∈ map.entries, s ∈ entry.2 := by
  rw [WorkloadMap.stepsOf, get?, KeyedList.first?] at hs
  cases hfind : map.entries.find? (·.1 == name) with
  | none => rw [hfind] at hs; exact absurd hs List.not_mem_nil
  | some entry =>
      rw [hfind] at hs
      exact ⟨entry, List.mem_of_find?_eq_some hfind, hs⟩

theorem Named.stepsOf (h : map.Named) (name : String) : ∀ s ∈ map.stepsOf name, s.kind.Named := by
  intro s hs
  obtain ⟨entry, hentry, hmem⟩ := mem_stepsOf hs
  exact h entry hentry s hmem

@[simp] theorem mem_served {σ : Signature} {names : List String} {name : String} :
    name ∈ map.served σ names ↔
      name ∈ names ∧ map.usable name = true ∧ map.signatureOf name = σ := by
  simp [served]

theorem served_append (σ : Signature) (names more : List String) :
    map.served σ (names ++ more) = map.served σ names ++ map.served σ more :=
  List.filter_append ..

theorem served_unusable {name : String} (σ : Signature) (h : map.usable name = false) :
    map.served σ [name] = [] := by
  simp [served, h]

theorem served_own {name : String} (h : map.usable name = true) :
    map.served (map.signatureOf name) [name] = [name] := by
  simp [served, h]

theorem served_other {name : String} {σ : Signature} (h : map.signatureOf name ≠ σ) :
    map.served σ [name] = [] := by
  simp [served, h]

end WorkloadMap

/-! ### The index of signatures -/

namespace Branch

/-- A branch with one more name if the name has its signature. -/
def serve (σ : Signature) (name : String) (b : Branch) : Branch :=
  if b.signature = σ then { b with workloads := b.workloads ++ [name] } else b

variable (σ : Signature) (name : String) (b : Branch)

@[simp] theorem serve_signature : (b.serve σ name).signature = b.signature := by
  unfold serve
  split <;> rfl

@[simp] theorem serve_signatureIndex : (b.serve σ name).signatureIndex = b.signatureIndex := by
  unfold serve
  split <;> rfl

@[simp] theorem serve_steps : (b.serve σ name).steps = b.steps := by
  unfold serve
  split <;> rfl

/-- One more name is never the first. -/
theorem serve_head? {first : String} (h : b.workloads.head? = some first) :
    (b.serve σ name).workloads.head? = some first := by
  unfold serve
  split
  · rw [List.head?_append, h]
    rfl
  · exact h

end Branch

namespace Grouping

/-- The signatures of the branches. -/
def signatures (g : Grouping) : List Signature := g.branches.map (·.signature)

/-- The names that the branches were opened by. -/
def firstNames (g : Grouping) : List String := g.branches.filterMap (·.workloads.head?)

/-- The index knows where the branch of every signature stands, and no others. -/
def InStep (g : Grouping) : Prop := ∀ σ, g.positions.lookup σ = g.signatures.idxOf? σ

/-- Where no signature has two branches, it tells their positions. -/
theorem signature_inj {g : Grouping} (hdistinct : g.signatures.Nodup) {i j : Nat}
    (hi : i < g.branches.length) (hj : j < g.branches.length) :
    g.branches[i].signature = g.branches[j].signature ↔ i = j := by
  have hlength : g.signatures.length = g.branches.length := List.length_map _
  have hinj := @List.Nodup.getElem_inj_iff _ _ hdistinct i (by rwa [hlength]) j (by rwa [hlength])
  simpa only [signatures, List.getElem_map] using hinj

/-- To change the branch at the position of a signature is to change all branches of it. -/
theorem modify_eq_serve {g : Grouping} (hdistinct : g.signatures.Nodup) {σ : Signature} {i : Nat}
    (hfound : g.signatures.idxOf? σ = some i) (name : String) :
    (g.branches.modify i fun b => { b with workloads := b.workloads ++ [name] }) =
      g.branches.map (Branch.serve σ name) := by
  obtain ⟨hlt, hat, -⟩ := List.idxOf?_eq_some_iff.mp hfound
  have hi : i < g.branches.length := by rwa [signatures, List.length_map] at hlt
  have hσ : g.branches[i].signature = σ := by simpa only [signatures, List.getElem_map] using hat
  refine List.ext_getElem (by simp) fun j hmodified _ => ?_
  have hj : j < g.branches.length := by rwa [List.length_modify] at hmodified
  have honly : g.branches[j].signature = σ ↔ i = j := by
    rw [← hσ, signature_inj hdistinct hj hi]
    exact eq_comm
  rw [List.getElem_modify, List.getElem_map, Branch.serve]
  simp only [honly]

end Grouping

namespace CameraSite

variable (site : CameraSite) (map : WorkloadMap)

/-- Regions are no part of a signature, so binding does not change it. -/
theorem ofSteps_bind (workload : String) (steps : List Step) :
    Signature.ofSteps ((site.bind workload steps).map (·.step)) = Signature.ofSteps steps := by
  rw [← Signature.ofSteps_bare, ← Signature.ofSteps_bare steps, bind, List.map_map, List.map_map]
  rfl

/-- The branch that a name opens as the `i`-th of its camera. -/
def opened (i : Nat) (name : String) : Branch :=
  { cameraIndex := site.index, signatureIndex := i, signature := map.signatureOf name,
    source := site.source, steps := site.bind name (map.stepsOf name), workloads := [name] }

/-- What there is to say about a name without steps. -/
def skipWarning (name : String) : Entry :=
  if (map.get? name).isSome then site.emptyWorkload name else site.unknownWorkload name

variable {site map}

theorem warnings_skipWarning (name : String) :
    Log.warnings [site.skipWarning map name] = [site.skipWarning map name] := by
  unfold skipWarning
  split <;> rfl

theorem add_unusable {name : String} (h : map.usable name = false) (g : Grouping) :
    site.add map g name = { g with log := g.log ++ [site.skipWarning map name] } := by
  simp only [WorkloadMap.usable, WorkloadMap.stepsOf, Bool.not_eq_false', List.isEmpty_iff] at h
  unfold add skipWarning
  cases hget : map.get? name with
  | none => rfl
  | some steps =>
      obtain rfl : steps = [] := by simpa [hget] using h
      rfl

theorem add_usable {name : String} (h : map.usable name = true) (g : Grouping) :
    site.add map g name = site.place g name (site.bind name (map.stepsOf name)) := by
  simp only [WorkloadMap.usable, WorkloadMap.stepsOf] at h ⊢
  unfold add
  cases hget : map.get? name with
  | none => simp [hget] at h
  | some steps =>
      cases steps with
      | nil => simp [hget] at h
      | cons s rest => rfl

/-- **Placing.** With an index in step, a name joins the branch of its signature, or opens a branch
if there is none. Neither warns of anything. -/
theorem place_cases (site : CameraSite) (map : WorkloadMap) {g : Grouping} (hg : g.InStep)
    (hdistinct : g.signatures.Nodup) (name : String) :
    let σ := map.signatureOf name
    let g' := site.place g name (site.bind name (map.stepsOf name))
    g'.log.warnings = g.log.warnings ∧
      ((σ ∈ g.signatures ∧ g'.positions = g.positions ∧
          g'.branches = g.branches.map (Branch.serve σ name)) ∨
        (σ ∉ g.signatures ∧ g'.positions = (σ, g.branches.length) :: g.positions ∧
          g'.branches = g.branches ++ [site.opened map g.branches.length name])) := by
  have hlookup := hg (map.signatureOf name)
  simp only [place, ofSteps_bind]
  rw [← WorkloadMap.signatureOf, hlookup]
  cases hfound : g.signatures.idxOf? (map.signatureOf name) with
  | none => exact ⟨rfl, .inr ⟨List.idxOf?_eq_none_iff.mp hfound, rfl, rfl⟩⟩
  | some i =>
      have hmem : map.signatureOf name ∈ g.signatures := by
        rw [← List.isSome_idxOf?, hfound]
        rfl
      exact ⟨by simp, .inl ⟨hmem, rfl, Grouping.modify_eq_serve hdistinct hfound name⟩⟩

/-! ### What holds after any names -/

/-- The branches after the names `names`, with their index and what was said about the names. -/
structure Groups (site : CameraSite) (map : WorkloadMap) (names : List String) (g : Grouping) :
    Prop where
  /-- The index is in step with the branches. -/
  inStep : g.InStep
  /-- No signature has two branches. -/
  distinct : g.signatures.Nodup
  /-- Every name with steps has a branch of its signature. -/
  covered : ∀ name ∈ names, map.usable name = true → map.signatureOf name ∈ g.signatures
  /-- A branch serves exactly the names of its signature, -/
  workloads : ∀ b ∈ g.branches, b.workloads = map.served b.signature names
  /-- and runs the steps of the first. -/
  steps : ∀ b ∈ g.branches, ∃ first, b.workloads.head? = some first ∧
    b.steps = site.bind first (map.stepsOf first)
  /-- Branches know their positions. -/
  positions : g.branches.map (·.signatureIndex) = List.range g.branches.length
  /-- They stand in the order in which their first names were asked for. -/
  order : g.firstNames.Pairwise fun a b => names.idxOf a < names.idxOf b
  /-- Names without steps were reported, and no others. -/
  warnings : g.log.warnings =
    (names.filter fun name => !map.usable name).map (site.skipWarning map)

theorem groups_nil : Groups site map [] {} where
  inStep := fun _ => rfl
  distinct := List.nodup_nil
  covered := fun _ h => absurd h List.not_mem_nil
  workloads := fun _ h => absurd h List.not_mem_nil
  steps := fun _ h => absurd h List.not_mem_nil
  positions := rfl
  order := List.Pairwise.nil
  warnings := rfl

namespace Groups

variable {names : List String} {g g' : Grouping} {name : String}

/-- The first name of a branch was asked for. -/
theorem firstNames_mem (h : Groups site map names g) {first : String}
    (hfirst : first ∈ g.firstNames) : first ∈ names := by
  obtain ⟨b, hb, hhead⟩ := List.mem_filterMap.mp hfirst
  have hmem := List.mem_of_mem_head? hhead
  rw [h.workloads b hb, WorkloadMap.mem_served] at hmem
  exact hmem.1

/-- More names change nothing in the order of those that branches were opened by. -/
theorem order_append (h : Groups site map names g) (more : List String) :
    g.firstNames.Pairwise fun a b => (names ++ more).idxOf a < (names ++ more).idxOf b := by
  refine h.order.imp_of_mem fun {a b} ha hb hlt => ?_
  rw [List.idxOf_append_of_mem (h.firstNames_mem ha), List.idxOf_append_of_mem (h.firstNames_mem hb)]
  exact hlt

/-- A name without steps changes the log only. -/
theorem skip (h : Groups site map names g) (hname : map.usable name = false) :
    Groups site map (names ++ [name]) { g with log := g.log ++ [site.skipWarning map name] } where
  inStep := h.inStep
  distinct := h.distinct
  covered := by
    intro n hn husable
    rcases List.mem_append.mp hn with hn | hn
    · exact h.covered n hn husable
    · rw [List.mem_singleton.mp hn, hname] at husable
      exact absurd husable Bool.false_ne_true
  workloads := by
    intro b hb
    rw [map.served_append, WorkloadMap.served_unusable _ hname, List.append_nil]
    exact h.workloads b hb
  steps := h.steps
  positions := h.positions
  order := h.order_append _
  warnings := by
    rw [Log.warnings_append, warnings_skipWarning, h.warnings, List.filter_append, List.map_append,
      List.filter_singleton, hname]
    rfl

/-- A usable name keeps the reported ones. -/
theorem warnings_usable (h : Groups site map names g) (hname : map.usable name = true)
    (hlog : g'.log.warnings = g.log.warnings) :
    g'.log.warnings =
      ((names ++ [name]).filter fun name => !map.usable name).map (site.skipWarning map) := by
  rw [hlog, h.warnings, List.filter_append, List.filter_singleton, hname]
  simp

/-- A usable name is covered once its signature has a branch. -/
theorem covered_usable (h : Groups site map names g) (hkept : g.signatures ⊆ g'.signatures)
    (hnew : map.signatureOf name ∈ g'.signatures) :
    ∀ n ∈ names ++ [name], map.usable n = true → map.signatureOf n ∈ g'.signatures := by
  intro n hn husable
  rcases List.mem_append.mp hn with hn | hn
  · exact hkept (h.covered n hn husable)
  · rw [List.mem_singleton.mp hn]
    exact hnew

/-- A name that is none of its own leaves the names of a branch as they are. -/
theorem workloads_other (h : Groups site map names g) {b : Branch} (hb : b ∈ g.branches)
    (hother : map.signatureOf name ≠ b.signature) :
    b.workloads = map.served b.signature (names ++ [name]) := by
  rw [map.served_append, WorkloadMap.served_other hother, List.append_nil]
  exact h.workloads b hb

/-- A name joins the branch of its signature. -/
theorem join (h : Groups site map names g) (hname : map.usable name = true)
    (hold : map.signatureOf name ∈ g.signatures) (hpositions : g'.positions = g.positions)
    (hbranches : g'.branches = g.branches.map (Branch.serve (map.signatureOf name) name))
    (hlog : g'.log.warnings = g.log.warnings) : Groups site map (names ++ [name]) g' := by
  have hsignatures : g'.signatures = g.signatures := by
    simp [Grouping.signatures, hbranches, Function.comp_def]
  have hfirsts : g'.firstNames = g.firstNames := by
    rw [Grouping.firstNames, hbranches, List.filterMap_map]
    refine List.filterMap_congr fun b hb => ?_
    obtain ⟨first, hfirst, -⟩ := h.steps b hb
    exact (b.serve_head? _ _ hfirst).trans hfirst.symm
  refine
    { inStep := ?inStep, distinct := ?distinct, covered := ?covered, workloads := ?workloads,
      steps := ?steps, positions := ?positions, order := ?order,
      warnings := h.warnings_usable hname hlog }
  case inStep =>
    intro σ
    rw [hpositions, hsignatures]
    exact h.inStep σ
  case distinct =>
    rw [hsignatures]
    exact h.distinct
  case covered =>
    refine h.covered_usable ?_ ?_ <;> rw [hsignatures]
    · exact List.Subset.refl _
    · exact hold
  case workloads =>
    intro c hc
    rw [hbranches] at hc
    obtain ⟨b, hb, rfl⟩ := List.mem_map.mp hc
    rw [Branch.serve_signature]
    by_cases hsame : b.signature = map.signatureOf name
    · rw [Branch.serve, if_pos hsame, hsame, map.served_append, WorkloadMap.served_own hname,
        ← hsame, ← h.workloads b hb]
    · rw [Branch.serve, if_neg hsame]
      exact h.workloads_other hb (Ne.symm hsame)
  case steps =>
    intro c hc
    rw [hbranches] at hc
    obtain ⟨b, hb, rfl⟩ := List.mem_map.mp hc
    obtain ⟨first, hfirst, hsteps⟩ := h.steps b hb
    exact ⟨first, b.serve_head? _ _ hfirst, (b.serve_steps _ _).trans hsteps⟩
  case positions =>
    rw [hbranches, List.length_map, ← h.positions, List.map_map]
    simp [Function.comp_def]
  case order =>
    rw [hfirsts]
    exact h.order_append _

/-- A name of a new signature opens a branch behind the others. -/
theorem openBranch (h : Groups site map names g) (hname : map.usable name = true)
    (hnew : map.signatureOf name ∉ g.signatures)
    (hpositions : g'.positions = (map.signatureOf name, g.branches.length) :: g.positions)
    (hbranches : g'.branches = g.branches ++ [site.opened map g.branches.length name])
    (hlog : g'.log.warnings = g.log.warnings) : Groups site map (names ++ [name]) g' := by
  have hsignatures : g'.signatures = g.signatures ++ [map.signatureOf name] := by
    simp [Grouping.signatures, hbranches, opened]
  have hfirsts : g'.firstNames = g.firstNames ++ [name] := by
    simp [Grouping.firstNames, hbranches, opened]
  -- The name was not asked for before: it would have opened its branch then.
  have hfresh : name ∉ names := fun hmem => hnew (h.covered name hmem hname)
  refine
    { inStep := ?inStep, distinct := ?distinct, covered := ?covered, workloads := ?workloads,
      steps := ?steps, positions := ?positions, order := ?order,
      warnings := h.warnings_usable hname hlog }
  case inStep =>
    intro σ
    rw [hpositions, hsignatures, List.idxOf?, List.findIdx?_append, ← List.idxOf?]
    by_cases hσ : σ = map.signatureOf name
    · rw [hσ, List.lookup_cons_self, List.idxOf?_eq_none_iff.mpr hnew]
      simp [Grouping.signatures]
    · rw [List.lookup_cons, beq_eq_false_iff_ne.mpr hσ]
      simpa [Ne.symm hσ] using h.inStep σ
  case distinct =>
    rw [hsignatures]
    exact (List.perm_append_singleton _ _).nodup_iff.mpr
      (List.nodup_cons.mpr ⟨hnew, h.distinct⟩)
  case covered =>
    refine h.covered_usable ?_ ?_ <;> rw [hsignatures]
    · exact List.subset_append_left _ _
    · exact List.mem_append_right _ List.mem_cons_self
  case workloads =>
    intro b hb
    rw [hbranches, List.mem_append, List.mem_singleton] at hb
    rcases hb with hb | rfl
    · refine h.workloads_other hb fun heq => hnew ?_
      rw [heq]
      exact List.mem_map_of_mem hb
    · -- The new branch serves its opener only: no earlier name has its signature.
      have hnone : map.served (map.signatureOf name) names = [] := by
        refine List.eq_nil_iff_forall_not_mem.mpr fun n hn => ?_
        obtain ⟨hmem, husable, hsame⟩ := WorkloadMap.mem_served.mp hn
        exact hnew (hsame ▸ h.covered n hmem husable)
      show [name] = map.served (map.signatureOf name) (names ++ [name])
      rw [map.served_append, hnone, WorkloadMap.served_own hname, List.nil_append]
  case steps =>
    intro b hb
    rw [hbranches, List.mem_append, List.mem_singleton] at hb
    rcases hb with hb | rfl
    · exact h.steps b hb
    · exact ⟨name, rfl, rfl⟩
  case positions =>
    rw [hbranches, List.map_append, h.positions, List.length_append, List.length_singleton,
      List.range_succ]
    rfl
  case order =>
    rw [hfirsts]
    refine List.pairwise_append.mpr ⟨h.order_append _, List.pairwise_singleton .., ?_⟩
    intro a ha b hb
    rw [List.mem_singleton.mp hb, List.idxOf_append_of_mem (h.firstNames_mem ha),
      List.idxOf_append_of_notMem hfresh, List.idxOf_cons_self]
    exact List.idxOf_lt_length_iff.mpr (h.firstNames_mem ha)

/-- **One name.** -/
theorem add (h : Groups site map names g) (name : String) :
    Groups site map (names ++ [name]) (site.add map g name) := by
  cases hname : map.usable name with
  | false =>
      rw [add_unusable hname]
      exact h.skip hname
  | true =>
      rw [add_usable hname]
      obtain ⟨hlog, ⟨hold, hpositions, hbranches⟩ | ⟨hnew, hpositions, hbranches⟩⟩ :=
        site.place_cases map h.inStep h.distinct name
      · exact h.join hname hold hpositions hbranches hlog
      · exact h.openBranch hname hnew hpositions hbranches hlog

/-- **All names.** -/
theorem addAll (h : Groups site map names g) (more : List String) :
    Groups site map (names ++ more) (more.foldl (site.add map) g) := by
  induction more generalizing names g with
  | nil => rwa [List.append_nil]
  | cons name rest ih =>
      rw [List.foldl_cons, List.append_cons]
      exact ih (h.add name)

end Groups

theorem groups_group (names : List String) : Groups site map names (site.group map names) :=
  groups_nil.addAll names

/-! ### Workloads and branches -/

namespace Groups

variable {names : List String} {g : Grouping}

/-- Every usable name is served, as often as it was asked for. -/
theorem perm (h : Groups site map names g) :
    (g.branches.flatMap (·.workloads)).Perm (names.filter map.usable) := by
  have hserved : g.branches.flatMap (·.workloads) = g.signatures.flatMap fun σ =>
      (names.filter map.usable).filter fun name => map.signatureOf name = σ := by
    rw [Grouping.signatures, List.flatMap_map]
    refine List.flatMap_congr fun b hb => ?_
    rw [h.workloads b hb, WorkloadMap.served, List.filter_filter]
    exact List.filter_congr fun name _ => Bool.and_comm _ _
  rw [hserved]
  refine flatMap_filter_perm _ _ h.distinct _ fun name hname => ?_
  obtain ⟨hmem, husable⟩ := List.mem_filter.mp hname
  exact h.covered name hmem husable

/-- Workloads without steps open no branch. -/
theorem steps_ne_nil (h : Groups site map names g) {b : Branch} (hb : b ∈ g.branches) :
    b.steps ≠ [] := by
  obtain ⟨first, hfirst, hsteps⟩ := h.steps b hb
  have hserved := List.mem_of_mem_head? hfirst
  rw [h.workloads b hb, WorkloadMap.mem_served] at hserved
  obtain ⟨-, husable, -⟩ := hserved
  intro hnil
  rw [hsteps, CameraSite.bind, List.map_eq_nil_iff] at hnil
  rw [WorkloadMap.usable, hnil] at husable
  exact Bool.noConfusion husable

/-- Names share a branch exactly if they share a signature. -/
theorem same_iff (h : Groups site map names g) {i j : Nat} {b c : Branch}
    (hb : g.branches[i]? = some b) (hc : g.branches[j]? = some c) {m n : String}
    (hm : m ∈ b.workloads) (hn : n ∈ c.workloads) :
    i = j ↔ map.signatureOf m = map.signatureOf n := by
  rw [h.workloads b (List.mem_of_getElem? hb), WorkloadMap.mem_served] at hm
  rw [h.workloads c (List.mem_of_getElem? hc), WorkloadMap.mem_served] at hn
  obtain ⟨hi, rfl⟩ := List.getElem?_eq_some_iff.mp hb
  obtain ⟨hj, rfl⟩ := List.getElem?_eq_some_iff.mp hc
  rw [hm.2.2, hn.2.2]
  exact (Grouping.signature_inj h.distinct hi hj).symm

end Groups

end CameraSite

/-! ### The branches of a camera -/

/-- A division of the names that a camera requests into branches that loses nothing, invents nothing
and merges what agrees, and no more. -/
structure Camera.Partitions (camera : Camera) (index : Nat) (map : WorkloadMap)
    (names : List String) (branches : List Branch) : Prop where
  /-- The branches together serve the usable names, as often as they were asked for. -/
  complete : (branches.flatMap (·.workloads)).Perm (names.filter map.usable)
  /-- Two names have the same branch exactly if their steps agree position by position. -/
  together : ∀ (i j : Nat) (b c : Branch), branches[i]? = some b → branches[j]? = some c →
    ∀ m ∈ b.workloads, ∀ n ∈ c.workloads,
      (i = j ↔ List.Forall₂ Step.Agrees (map.stepsOf m) (map.stepsOf n))
  /-- Within a branch the names keep the order of the request. -/
  inOrder : ∀ b ∈ branches, b.workloads.Sublist names
  /-- The branches are ordered by their first names. -/
  byFirst : (branches.filterMap (·.workloads.head?)).Pairwise fun a b =>
    names.idxOf a < names.idxOf b
  /-- They know their positions. -/
  positions : branches.map (·.signatureIndex) = List.range branches.length
  /-- A branch runs the steps of its first name, with the camera's region in place of their own if
  the camera has one, for the id of the camera or else its position. -/
  steps : ∀ b ∈ branches, ∃ first, b.workloads.head? = some first ∧
    b.steps = (map.stepsOf first).map fun s =>
      ⟨{ s with region := camera.region.or s.region }, first,
        camera.id.getD ("cam" ++ natText (index + 1))⟩

theorem CameraSite.Groups.partitions {camera : Camera} {index : Nat} {source : Source}
    {map : WorkloadMap} {names : List String} {g : Grouping}
    (h : Groups (.ofCamera index camera source) map names g) (hmap : map.Named) :
    camera.Partitions index map names g.branches where
  complete := h.perm
  together := by
    intro i j b c hb hc m hm n hn
    rw [h.same_iff hb hc hm hn]
    exact Signature.ofSteps_eq_iff (hmap.stepsOf m) (hmap.stepsOf n)
  inOrder := by
    intro b hb
    rw [h.workloads b hb]
    exact List.filter_sublist
  byFirst := h.order
  positions := h.positions
  steps := h.steps

/-- **Grouping.** For every camera at every position, every request, repeats included, and every map
that a document can give: the branches of the camera divide the usable names among them by what
their steps agree on, and every other name of the request is warned of once, in request order, after
whatever there was to warn of about the source. -/
theorem Grouping.ofCamera_partitions (settings : Settings) (layout : ModelLayout) (index : Nat)
    (camera : Camera) (names : List String) (map : WorkloadMap) (hmap : map.Named) :
    let resolved := Source.ofCamera camera settings.endpoint layout
    let site := CameraSite.ofCamera index camera resolved.1
    let g := Grouping.ofCamera settings layout index camera names map
    camera.Partitions index map names g.branches ∧
      g.log.warnings = resolved.2.warnings ++
        (names.filter fun name => !map.usable name).map (site.skipWarning map) := by
  intro resolved site g
  have h : CameraSite.Groups site map names (site.group map names) :=
    CameraSite.groups_group names
  refine ⟨h.partitions hmap, ?_⟩
  show Log.warnings (resolved.2 ++ .detail .branch _ :: (site.group map names).log) = _
  rw [Log.warnings_append, Log.warnings_detail, h.warnings]

/-- Two workloads whose steps differ in a script and a region only, one of them asked for twice, and
one without steps, for a camera with a region of its own. -/
theorem Grouping.ofCamera_partitions_repeated :
    let settings := Settings.ofEnvironment (fun _ => none) "0"
    let frame : Region := { x2 := .integer 4 }
    let camera : Camera :=
      { cameraId := some "a", fileSource := some "a.mp4", region := some frame }
    let map : WorkloadMap :=
      ⟨[("count", [{ kind := .detect, module := some "m.py" }]), ("idle", []),
        ("watch", [{ kind := .detect, region := some {} }])]⟩
    let g := Grouping.ofCamera settings ⟨"/m", "/v"⟩ 0 camera ["watch", "idle", "count", "watch"] map
    map.Named ∧ (g.branches.flatMap (·.workloads)).Perm ["watch", "count", "watch"] ∧
      (∀ b ∈ g.branches,
        b.steps = [⟨{ kind := .detect, region := some frame }, "watch", "a"⟩]) ∧
      g.log.warnings = [.warning "workload 'idle' on camera a has no steps, skipping"] := by
  intro settings frame camera map g
  have hdetect : StepKind.detect.Named := ⟨"gvadetect", rfl⟩
  have hmap : map.Named := by simp [map, WorkloadMap.Named, hdetect]
  obtain ⟨hpartitions, hwarnings⟩ := Grouping.ofCamera_partitions settings ⟨"/m", "/v"⟩ 0 camera
    ["watch", "idle", "count", "watch"] map hmap
  refine ⟨hmap, hpartitions.complete, fun b hb => ?_, hwarnings.trans (by decide +kernel)⟩
  have hfirsts : ∀ c ∈ g.branches, c.workloads.head? = some "watch" := by decide +kernel
  have hid : camera.id.getD ("cam" ++ natText (0 + 1)) = "a" := by decide +kernel
  obtain ⟨first, hfirst, hsteps⟩ := hpartitions.steps b hb
  obtain rfl : first = "watch" := Option.some.inj (hfirst.symm.trans (hfirsts b hb))
  rw [hsteps, hid]
  rfl

end CameraGraph
