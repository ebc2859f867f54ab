import CameraGraph.Proofs.ChainParts
import Mathlib.Data.List.Chain

/-!
# CameraGraph.Proofs.QueuePlacement

Where queues stand in a chain.

The first element of every step but the first of a branch stands behind a queue, and no two queues are
neighbours, unless the second is there by request: as a `queue` step, or because a profile decodes
frames with a queue. The second half is kept part by part (`QueuesApart.append`). A part that begins
with no queue of the compiler's own may follow anything; only a separator begins with one, and it is
put where the chain does not end in a queue yet.
-/

namespace CameraGraph

/-! ### Factories -/

/-- No two neighbours are queues. -/
def NoTwoQueues (factories : List String) : Prop :=
  factories.IsChain fun a c => ¬(a = "queue" ∧ c = "queue")

instance (factories : List String) : Decidable (NoTwoQueues factories) :=
  inferInstanceAs (Decidable (List.IsChain _ _))

namespace StepKind

theorem noTwoQueues (k : StepKind) : NoTwoQueues k.factories := by
  cases k with
  | detect => decide
  | classify => decide
  | inference => decide
  | transform => decide
  | utility u => exact List.isChain_singleton _
  | unknown name => exact List.isChain_singleton _

/-- Only the step that places a queue begins with one. -/
theorem eq_queue_of_head? {k : StepKind} (hk : k.Named) (h : k.factories.head? = some "queue") :
    k = .utility .queue := by
  cases k with
  | detect => simp [factories] at h
  | classify => simp [factories] at h
  | inference => simp [factories] at h
  | transform => simp [factories] at h
  | utility u => cases u <;> simp_all [factories, Utility.factory]
  | unknown name =>
      -- A name that stands for an unknown element is not that of the queue.
      obtain rfl : name = "queue" := by simpa [factories] using h
      exact absurd hk.ofName_name (by decide)

end StepKind

theorem Source.noTwoQueues (source : Source) : NoTwoQueues source.factories := by
  cases source with
  | stream uri name => simp [NoTwoQueues, factories]
  | file path name => exact List.isChain_singleton _

/-! ### Queues by request -/

namespace Compiler

variable (x : Compiler) (b : Branch)

/-- Whether the profile of the first step's device decodes frames with nothing but a queue. Blanks
around the value do not count, as nowhere in a profile. -/
def DecodesToQueue (steps : List BoundStep) : Prop :=
  ∃ device raw, firstDevice steps = some device ∧
    (x.profiles.tuning device).get "DECODE" = some raw ∧ Text.trim raw = "queue"

theorem decodesToQueue_of_decoder {steps : List BoundStep}
    (h : x.decoder (firstDevice steps) = "queue") : x.DecodesToQueue steps := by
  cases hdevice : firstDevice steps with
  | none =>
      rw [hdevice, decoder, Option.elim_none] at h
      exact absurd h (by decide)
  | some device =>
      rw [hdevice, decoder, Option.elim_some, Tuning.decode] at h
      cases hraw : (x.profiles.tuning device).get "DECODE" with
      | none =>
          rw [hraw] at h
          exact absurd h (by decide)
      | some raw =>
          rw [hraw, Option.bind_some, Text.nonBlank?] at h
          refine ⟨device, raw, hdevice, hraw, ?_⟩
          split at h
          · exact absurd h (by decide)
          · exact h

/-- A bare queue that is in the chain by request: as the element of a step that places a queue, or to
decode frames. -/
def Requested : Part × Element → Prop
  | (.step i, e) => e = element "queue" ∧
      ∃ s, b.steps[i]? = some s ∧ s.step.kind = .utility .queue
  | (.decoder, e) => e = element "queue" ∧ x.DecodesToQueue b.steps
  | _ => False

theorem Requested.eq_element {m : Part × Element} (h : x.Requested b m) : m.2 = element "queue" := by
  obtain ⟨part, e⟩ := m
  cases part with
  | step i => exact h.1
  | decoder => exact h.1
  | source => exact h.elim
  | regions => exact h.elim
  | separator => exact h.elim
  | ending => exact h.elim

/-! ### Parts one after another -/

/-- A queue behind a queue is there by request. -/
def QueuesApart (ms : List (Part × Element)) : Prop :=
  ms.IsChain fun m n => m.2.isQueue = true → n.2.isQueue = true → x.Requested b n

/-- A queue in front is there by request. -/
def OpensByRequest (ms : List (Part × Element)) : Prop :=
  ∀ m, ms.head? = some m → m.2.isQueue = true → x.Requested b m

variable {x b} {as bs : List (Part × Element)}

theorem QueuesApart.append (ha : x.QueuesApart b as) (hb : x.QueuesApart b bs)
    (hopens : x.OpensByRequest b bs) : x.QueuesApart b (as ++ bs) :=
  List.IsChain.append ha hb fun _ _ n hn _ hqueue => hopens n hn hqueue

theorem queuesApart_marks (part : Part) {es : List Element}
    (h : NoTwoQueues (es.map Element.factory)) : x.QueuesApart b (part.marks es) := by
  rw [NoTwoQueues, List.isChain_map] at h
  refine (List.isChain_map _).mpr (h.imp fun e f hne he hf => ?_)
  exact absurd ⟨eq_of_beq he, eq_of_beq hf⟩ hne

theorem opensByRequest_marks (part : Part) {es : List Element}
    (h : (es.map Element.factory).head? ≠ some "queue") : x.OpensByRequest b (part.marks es) := by
  intro m hm hqueue
  rw [Part.marks, List.head?_map, Option.map_eq_some_iff] at hm
  obtain ⟨e, he, rfl⟩ := hm
  rw [List.head?_map, he] at h
  exact absurd (congrArg some (eq_of_beq hqueue)) h

/-- A separator keeps queues apart: it is put where there is none. -/
theorem QueuesApart.separate (h : x.QueuesApart b as) :
    x.QueuesApart b (as ++ separation (endsInQueue as)) := by
  cases hends : endsInQueue as with
  | true =>
      rw [separation, if_pos rfl, List.append_nil]
      exact h
  | false =>
      refine List.IsChain.append h (List.isChain_singleton _) fun m hm n _ hqueue _ => ?_
      rw [endsInQueue, Option.mem_def.mp hm, Option.any_some, hqueue] at hends
      exact Bool.noConfusion hends

/-! ### Stages -/

section Stages

variable (x) (p : Place)

theorem stage_queuesApart (part : Part) (last : Nat) (s : BoundStep) :
    x.QueuesApart b (part.marks (x.stage p last s).1) := by
  refine queuesApart_marks part ?_
  rw [x.stage_factories]
  exact s.step.kind.noTwoQueues

theorem stage_opensByRequest {i : Nat} {s : BoundStep} (hs : b.steps[i]? = some s)
    (hnamed : s.step.kind.Named) (last : Nat) :
    x.OpensByRequest b ((Part.step i).marks (x.stage p last s).1) := by
  intro m hm hqueue
  rw [Part.marks, List.head?_map, Option.map_eq_some_iff] at hm
  obtain ⟨e, he, rfl⟩ := hm
  have hfirst : s.step.kind.factories.head? = some "queue" := by
    rw [← x.stage_factories p last s, List.head?_map, he]
    exact congrArg some (eq_of_beq hqueue)
  have hkind := StepKind.eq_queue_of_head? hnamed hfirst
  have hstage : (x.stage p last s).1 = [element "queue"] := by
    rw [stage, hkind]
    rfl
  rw [hstage] at he
  exact ⟨(Option.some.inj he).symm, s, hs, hkind⟩

/-- Stages keep queues apart whatever they follow, if a queue may stand between it and them. -/
theorem markStages_queuesApart (hnamed : ∀ s ∈ b.steps, s.step.kind.Named)
    {front : List (Part × Element)} {spaced : Bool}
    (hspaced : x.QueuesApart b (front ++ separation spaced)) (i last : Nat) (steps : List BoundStep)
    (hsteps : ∀ j s, steps[j]? = some s → b.steps[i + j]? = some s) :
    x.QueuesApart b (front ++ x.markStages p i spaced last steps) := by
  induction steps generalizing front spaced i last with
  | nil =>
      rw [markStages, List.append_nil]
      exact hspaced.left_of_append
  | cons s rest ih =>
      have hs : b.steps[i]? = some s := hsteps 0 s rfl
      have hnext : x.QueuesApart b (x.throughStage p front i spaced last s) :=
        hspaced.append (x.stage_queuesApart p _ last s)
          (x.stage_opensByRequest p hs (hnamed s (List.mem_of_getElem? hs)) last)
      rw [append_markStages_cons]
      refine ih hnext.separate (i + 1) _ fun j t ht => ?_
      rw [show i + 1 + j = i + (j + 1) by omega]
      exact hsteps (j + 1) t ht

end Stages

/-! ### Whole chains -/

variable (x b) (last : Nat)

theorem markedFront_queuesApart : x.QueuesApart b (x.markedFront b last) := by
  have hsource : x.QueuesApart b (Part.source.marks (x.sourceElements last b.source).1) := by
    refine queuesApart_marks _ ?_
    rw [sourceElements_factories]
    exact b.source.noTwoQueues
  have hdecoder : x.OpensByRequest b
      (Part.decoder.marks [element (x.decoder (firstDevice b.steps))]) := by
    intro m hm hqueue
    obtain rfl := Option.some.inj hm
    have hdecode : x.decoder (firstDevice b.steps) = "queue" := eq_of_beq hqueue
    exact ⟨congrArg element hdecode, x.decodesToQueue_of_decoder hdecode⟩
  have hregions : x.QueuesApart b (Part.regions.marks (attachRegions (regionsOf b.steps))) ∧
      x.OpensByRequest b (Part.regions.marks (attachRegions (regionsOf b.steps))) := by
    refine ⟨queuesApart_marks _ ?_, opensByRequest_marks _ ?_⟩ <;> rw [attachRegions_factories]
    · cases hasRegion b.steps <;> decide
    · cases hasRegion b.steps <;> decide
  exact (hsource.append (List.isChain_singleton _) hdecoder).append hregions.1 hregions.2

theorem branchEnd_factories (n : Nat) :
    (branchEnd b n).map Element.factory = endFactories (hasTransform b.steps) := by
  unfold branchEnd endFactories
  cases hasTransform b.steps <;> rfl

theorem markedChain_queuesApart (hnamed : ∀ s ∈ b.steps, s.step.kind.Named) :
    x.QueuesApart b (x.markedChain b last) := by
  have hstages : x.QueuesApart b
      (x.markedFront b last ++ x.markStages b.place 0 true (last + 1) b.steps) := by
    refine x.markStages_queuesApart b.place hnamed ?_ 0 _ b.steps fun j s hs => ?_
    · rw [separation, if_pos rfl, List.append_nil]
      exact x.markedFront_queuesApart b last
    · rwa [Nat.zero_add]
  refine hstages.append (queuesApart_marks _ ?_) (opensByRequest_marks _ ?_) <;>
    rw [branchEnd_factories]
  · cases hasTransform b.steps <;> decide
  · cases hasTransform b.steps <;> decide

/-- Queues where they belong in the chain of a branch. -/
structure QueuesPlaced : Prop where
  /-- The chain is the one that is marked. -/
  elements : (x.markedChain b last).map Prod.snd = (x.compile b last).1.chain
  /-- Each step has one block of elements in it, and unless it is the first step, a queue stands just
  before the first of them. -/
  preceded : ∀ i s, b.steps[i]? = some s →
    let block := (x.stage b.place (numberBefore (last + 1) b.steps i) s).1
    block ≠ [] ∧ ∃ before after,
      x.markedChain b last = before ++ (Part.step i).marks block ++ after ∧
      (∀ m ∈ before ++ after, m.1 ≠ .step i) ∧
      (0 < i → ∃ q, before.getLast? = some q ∧ q.2.isQueue = true)
  /-- Of two neighbours that are queues the second is there by request, -/
  apart : x.QueuesApart b (x.markedChain b last)
  /-- and so it is none of the queues that are put in for buffering. -/
  own : (x.compile b last).1.chain.IsChain fun e f => e.isQueue = true → f ≠ .queue

variable {x b last}

theorem QueuesApart.own {ms : List (Part × Element)} (h : x.QueuesApart b ms) :
    (ms.map Prod.snd).IsChain fun e f => e.isQueue = true → f ≠ .queue := by
  refine (List.isChain_map _).mpr (h.imp fun m n hrequested hm hn => ?_)
  have hbare := (hrequested hm (by rw [hn]; rfl)).eq_element
  rw [hn] at hbare
  exact absurd hbare (by decide)

end Compiler

/-- **Queues.** In every chain that a branch is compiled to, whatever its steps, regions and source
are and whatever the settings and profiles, a queue stands before each step but the first, and no
queue stands directly behind another but by request. -/
theorem Compiler.queues_placed (x : Compiler) (b : Branch) (last : Nat)
    (hnamed : ∀ s ∈ b.steps, s.step.kind.Named) : x.QueuesPlaced b last := by
  have hapart := x.markedChain_queuesApart b last hnamed
  refine ⟨x.markedChain_elements b last, fun i s hs => ?_, hapart, ?_⟩
  · obtain ⟨before, after, heq, hends, hothers⟩ := x.markedChain_block b last hs
    exact ⟨x.stage_ne_nil _ _ s, _, after, heq, hothers, fun hlt => endsInQueue_iff.mp (hends hlt)⟩
  · rw [← x.markedChain_elements b last]
    exact hapart.own

/-- Both kinds of request, the second one behind a queue that separates steps. -/
theorem Compiler.queues_placed_by_request :
    let x : Compiler := ⟨Settings.ofEnvironment (fun _ => none) "0", ⟨"/m", "/v"⟩,
      Profiles.add {} "cpu" ⟨[("DECODE", " queue ")]⟩⟩
    let steps : List Step := [{ kind := .inference, device := some "CPU" },
      { kind := .utility .queue }, { kind := .detect }, { kind := .unknown "tee" }]
    let b : Branch := ⟨0, 0, .ofSteps steps, .stream "rtsp://h:1/a" "a",
      steps.map fun s => ⟨s, "w", "a"⟩, ["w"]⟩
    (∀ s ∈ b.steps, s.step.kind.Named) ∧ x.QueuesPlaced b 0 ∧
      (x.compile b 0).1.chain.map Element.factory =
        ["rtspsrc", "rtph264depay", "h264parse", "queue", "queue", "gvainference", "queue", "queue",
          "gvadetect", "gvatrack", "queue", "tee", "gvametaconvert", "tee"] := by
  intro x steps b
  have hinference : StepKind.inference.Named := ⟨"gvainference", rfl⟩
  have hqueue : (StepKind.utility .queue).Named := ⟨"queue", rfl⟩
  have hdetect : StepKind.detect.Named := ⟨"gvadetect", rfl⟩
  have htee : (StepKind.unknown "tee").Named := ⟨"tee", rfl⟩
  have hnamed : ∀ s ∈ b.steps, s.step.kind.Named := by
    simp [b, steps, hinference, hqueue, hdetect, htee]
  exact ⟨hnamed, Compiler.queues_placed x b 0 hnamed, by decide +kernel⟩

/-- A value with blanks around it decodes with a queue as well: here one stands behind that of the
source, though no step places a queue and no profile has exactly `queue` to decode with. -/
theorem Compiler.padded_decode_doubles_queue :
    let x : Compiler := ⟨Settings.ofEnvironment (fun _ => none) "0", ⟨"/m", "/v"⟩,
      Profiles.add {} "CPU" ⟨[("DECODE", " queue ")]⟩⟩
    let step : Step :=
      { kind := .inference, model := some "m", device := some "CPU", precision := some "FP16" }
    let b : Branch := ⟨0, 0, .ofSteps [step], .stream "rtsp://rtsp-streamer:8554/a" "a",
      [⟨step, "w", "a"⟩], ["w"]⟩
    (∀ s ∈ b.steps, s.step.kind.Named ∧ s.step.kind ≠ .utility .queue) ∧
      firstDevice b.steps = some "CPU" ∧
      (x.profiles.tuning "CPU").get "DECODE" = some " queue " ∧
      (∀ device, (x.profiles.tuning device).get "DECODE" ≠ some "queue") ∧
      (x.compile b 0).1.chain.map Element.factory =
        ["rtspsrc", "rtph264depay", "h264parse", "queue", "queue", "gvainference",
          "gvametaconvert", "tee"] ∧
      ¬NoTwoQueues ((x.compile b 0).1.chain.map Element.factory) := by
  intro x step b
  have hstep : StepKind.inference.Named ∧ StepKind.inference ≠ .utility .queue :=
    ⟨⟨"gvainference", rfl⟩, by decide⟩
  have hprofiles : ∀ device, (x.profiles.tuning device).get "DECODE" ≠ some "queue" := by
    intro device
    have htuning : x.profiles.tuning device = ⟨[("DECODE", " queue ")]⟩ ∨
        x.profiles.tuning device = {} := by
      simp only [x, Profiles.tuning, Profiles.add, List.nil_append, KeyedList.last?]
      split <;> simp
    rcases htuning with h | h
    · rw [h]
      decide +kernel
    · rw [h]
      decide +kernel
  refine ⟨by simpa [b, step] using hstep, rfl, ?_, hprofiles, ?_, ?_⟩ <;> decide +kernel

end CameraGraph
