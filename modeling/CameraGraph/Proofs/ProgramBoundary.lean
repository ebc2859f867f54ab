import CameraGraph.Program
import CameraGraph.Proofs.ProfileVariables
import CameraGraph.Proofs.SignatureEncoding

/-!
# CameraGraph.Proofs.ProgramBoundary

What a run leaves behind, by what it finds.

A run fails if one of its two documents cannot be read or is refused, and nothing else makes it
fail. It prints one command or nothing. Which documents those are depends on four variables, and what
they may hold is free in all names: any text is a kind of step, and any text a workload. The flag for
details and the filter of the log change what is shown only; of the filter's variable that is true
unless a profile file substitutes it.
-/

namespace CameraGraph

/-! ### Documents -/

/-- The file at a path is a text that `parse` takes for `value`. -/
def Disk.Holds {α : Type} (disk : Disk) (path : Path) (parse : String → Except Json.Error α)
    (value : α) : Prop :=
  ∃ bytes text, disk.read path = .ok bytes ∧ Text.textOfBytes bytes = some text ∧
    parse text = .ok value

theorem bind_eq_ok_iff {ε α β : Type} {x : Except ε α} {f : α → Except ε β} {b : β} :
    (x >>= f) = .ok b ↔ ∃ a, x = .ok a ∧ f a = .ok b := by
  cases x with
  | error e =>
      constructor
      · intro h
        cases h
      · rintro ⟨a, ha, -⟩
        cases ha
  | ok a =>
      constructor
      · exact fun h => ⟨a, rfl, h⟩
      · rintro ⟨c, hc, h⟩
        cases hc
        exact h

theorem isOk_iff {ε α : Type} {x : Except ε α} : x.isOk ↔ ∃ a, x = .ok a := by
  cases x with
  | error e => exact iff_of_false Bool.false_ne_true nofun
  | ok a => exact iff_of_true rfl ⟨a, rfl⟩

theorem Disk.readText_eq_ok_iff {disk : Disk} {path : Path} {text : String} :
    disk.readText path = .ok text ↔
      ∃ bytes, disk.read path = .ok bytes ∧ Text.textOfBytes bytes = some text := by
  rw [readText, bind_eq_ok_iff]
  refine exists_congr fun bytes => and_congr_right fun _ => ?_
  cases Text.textOfBytes bytes with
  | none => exact iff_of_false nofun nofun
  | some read => exact Except.ok.injEq read text ▸ Option.some.injEq read text ▸ Iff.rfl

theorem readDocument_eq_ok_iff {α : Type} {disk : Disk} {document : DocumentKind} {path : Path}
    {parse : String → Except Json.Error α} {value : α} :
    readDocument disk document path parse = .ok value ↔ disk.Holds path parse value := by
  have hdocument : readDocument disk document path parse = .ok value ↔
      ∃ text, disk.readText path = .ok text ∧ parse text = .ok value := by
    unfold readDocument
    cases disk.readText path with
    | error cause => exact iff_of_false nofun nofun
    | ok text => cases hparse : parse text <;> simp [hparse]
  rw [hdocument]
  simp only [Disk.readText_eq_ok_iff]
  constructor
  · rintro ⟨text, ⟨bytes, hread, htext⟩, hparse⟩
    exact ⟨bytes, text, hread, htext, hparse⟩
  · rintro ⟨bytes, text, hread, htext, hparse⟩
    exact ⟨text, ⟨bytes, hread, htext⟩, hparse⟩

namespace Inputs

/-- The two documents of a run can be used, and this is what they hold. -/
structure LieOn (inputs : Inputs) (disk : Disk) (settings : Settings) : Prop where
  /-- The cameras, -/
  cameras : disk.Holds settings.cameraDocumentPath Camera.parseDocument inputs.cameras
  /-- and the workloads. -/
  workloads : disk.Holds settings.workloadDocumentPath WorkloadMap.parseDocument inputs.workloads

theorem load_eq_ok_iff {disk : Disk} {settings : Settings} {inputs : Inputs} :
    load disk settings = .ok inputs ↔ inputs.LieOn disk settings := by
  unfold load
  simp only [bind_eq_ok_iff, readDocument_eq_ok_iff]
  constructor
  · rintro ⟨cameras, hcameras, workloads, hworkloads, hinputs⟩
    cases hinputs
    exact ⟨hcameras, hworkloads⟩
  · rintro ⟨hcameras, hworkloads⟩
    exact ⟨_, hcameras, _, hworkloads, rfl⟩

end Inputs

/-! ### Free names -/

namespace WorkloadMap

/-- The text of a list of steps, with what signatures are made of. -/
def stepsChars (steps : List Step) : List Char :=
  '[' :: [','].intercalate (steps.map fun s => (Signature.entry s).chars) ++ [']']

/-- The text of the workloads of a document. -/
def mapChars (ws : List (String × List Step)) : List Char :=
  '\x7b' :: [','].intercalate (ws.map fun w => Json.memberChars w.1 (stepsChars w.2)) ++ ['\x7d']

/-- The text of a workload document. -/
def documentText (ws : List (String × List Step)) : String :=
  String.ofList ('\x7b' :: Json.memberChars "workload_pipeline_map" (mapChars ws) ++ ['\x7d'])

/-- **Free names.** A document may name any workloads, and steps of any kinds: every name is the
name of a kind. -/
theorem parseDocument_documentText {ws : List (String × List Step)}
    (h : ∀ w ∈ ws, ∀ s ∈ w.2, s.kind.Named) :
    parseDocument (documentText ws) =
      .ok (ofMembers (ws.map fun w => (w.1, w.2.map Step.bare))) := by
  have hmap : Json.Reads (Json.mapOf (Json.listOf Step.shape.decoder) 126) (mapChars ws)
      (ws.map fun w => (w.1, w.2.map Step.bare)) := by
    refine Json.reads_mapOf Prod.fst ws fun w hw => ?_
    exact Json.reads_listOf w.2 fun s hs =>
      ⟨Signature.reads_entry (h w hw s hs) 123, Signature.entry_startsItem s⟩
  let member : Json.Member (List (String × List Step)) :=
    ⟨"workload_pipeline_map", mapChars ws, fun _ => ws.map fun w => (w.1, w.2.map Step.bare)⟩
  have hknown : ∀ m ∈ [member], documentShape.Knows 126 m := by
    intro m hm
    rw [List.mem_singleton.mp hm]
    exact ⟨_, rfl, hmap.neededField _ _⟩
  have hrequired : ∀ f ∈ documentShape.fields, f.required →
      f.key ∈ [member].map Json.Member.key := by
    intro f hf _
    rw [List.mem_singleton.mp hf]
    exact List.mem_singleton_self _
  have hread := Json.Shape.reads_decoder [member] hknown (List.pairwise_singleton _ _) hrequired
  have htext : documentText ws =
      String.ofList ('\x7b' :: [','].intercalate ([member].map Json.Member.chars) ++ ['\x7d']) := by
    rw [List.map_singleton, List.intercalate_singleton]
    rfl
  have hwhole := Json.Reads.whole hread
  rw [parseDocument, Json.Shape.parse, htext]
  exact congrArg (Except.map ofMembers) hwhole

end WorkloadMap

/-! ### Settings -/

namespace Settings

/-- The variables that say where the documents lie, and the results. -/
def documentKeys : List String :=
  ["PIPELINE_SERVER_DIR", "CONFIG_DIR", "WORKLOAD_DIST", "CAMERA_STREAM"]

/-- Settings that name the same documents and the same directory of results. -/
structure SameDocuments (s t : Settings) : Prop where
  /-- The cameras lie at the same path, -/
  cameras : s.cameraDocumentPath = t.cameraDocumentPath
  /-- and so do the workloads, -/
  workloads : s.workloadDocumentPath = t.workloadDocumentPath
  /-- and the results. -/
  results : s.resultsDir = t.resultsDir

theorem ofEnvironment_sameDocuments {env env' : Environment}
    (h : ∀ key ∈ documentKeys, env key = env' key) (now now' : String) :
    SameDocuments (ofEnvironment env now) (ofEnvironment env' now') := by
  have hserver : env "PIPELINE_SERVER_DIR" = env' "PIPELINE_SERVER_DIR" := h _ (by decide)
  have hconfig : env "CONFIG_DIR" = env' "CONFIG_DIR" := h _ (by decide)
  have hworkloads : env "WORKLOAD_DIST" = env' "WORKLOAD_DIST" := h _ (by decide)
  have hcameras : env "CAMERA_STREAM" = env' "CAMERA_STREAM" := h _ (by decide)
  constructor
  · simp only [cameraDocumentPath, ofEnvironment, hserver, hconfig, hcameras]
  · simp only [workloadDocumentPath, ofEnvironment, hserver, hconfig, hworkloads]
  · simp only [resultsDir, ofEnvironment, hserver]

/-- No setting is taken from the variable of the log filter. -/
theorem ofEnvironment_congr {env env' : Environment}
    (h : ∀ key, key ≠ "RUST_LOG" → env key = env' key) (now : String) :
    ofEnvironment env now = ofEnvironment env' now := by
  simp (disch := decide) only [ofEnvironment, h]

end Settings

/-- Documents at the same paths with the same bytes hold the same. -/
theorem Inputs.LieOn.congr {inputs : Inputs} {disk disk' : Disk} {settings settings' : Settings}
    (hsame : settings.SameDocuments settings')
    (hread : ∀ path ∈ [settings.cameraDocumentPath, settings.workloadDocumentPath],
      disk.read path = disk'.read path) :
    inputs.LieOn disk settings ↔ inputs.LieOn disk' settings' := by
  have hcameras : disk.read settings.cameraDocumentPath = disk'.read settings'.cameraDocumentPath :=
    hsame.cameras ▸ hread _ List.mem_cons_self
  have hworkloads :
      disk.read settings.workloadDocumentPath = disk'.read settings'.workloadDocumentPath :=
    hsame.workloads ▸ hread _ (List.mem_cons_of_mem _ List.mem_cons_self)
  constructor
  · rintro ⟨hc, hw⟩
    rw [Disk.Holds, hcameras] at hc
    rw [Disk.Holds, hworkloads] at hw
    exact ⟨hc, hw⟩
  · rintro ⟨hc, hw⟩
    rw [Disk.Holds, ← hcameras] at hc
    rw [Disk.Holds, ← hworkloads] at hw
    exact ⟨hc, hw⟩

/-! ### The flag for details -/

namespace Arguments

/-- The arguments with details asked for. -/
def detailed (a : Arguments) : Arguments := { a with verbose := true }

/-- Whether details were asked for before makes no other difference to what `f` does, as long as it
does not ask for them itself. -/
def IgnoresDetails (f : Arguments → Except ArgumentError Arguments) : Prop :=
  ∀ a b, f a = .ok b → b.verbose = false → a.verbose = false ∧ f a.detailed = .ok b.detailed

theorem IgnoresDetails.ok : IgnoresDetails .ok := by
  intro a b h hb
  cases h
  exact ⟨hb, rfl⟩

theorem IgnoresDetails.error (e : ArgumentError) : IgnoresDetails fun _ => .error e :=
  nofun

theorem IgnoresDetails.bind {f g : Arguments → Except ArgumentError Arguments}
    (hf : IgnoresDetails f) (hg : IgnoresDetails g) : IgnoresDetails fun a => f a >>= g := by
  intro a c h hc
  obtain ⟨b, hb, h⟩ := bind_eq_ok_iff.mp h
  obtain ⟨hquiet, hg⟩ := hg b c h hc
  obtain ⟨hquiet, hf⟩ := hf a b hb hquiet
  exact ⟨hquiet, bind_eq_ok_iff.mpr ⟨b.detailed, hf, hg⟩⟩

theorem ignoresDetails_setFlag (flag : Flag) : IgnoresDetails (·.setFlag flag) := by
  intro a b h hb
  cases flag with
  | help => cases h
  | multiline =>
      simp only [setFlag] at h
      split at h
      · cases h
      · rename_i hnew
        cases h
        exact ⟨hb, if_neg hnew⟩
  | verbose =>
      simp only [setFlag] at h
      split at h
      · cases h
      · cases h
        cases hb

theorem ignoresDetails_setCount (value : List Char) : IgnoresDetails (·.setCount value) := by
  intro a b h hb
  simp only [setCount] at h
  split at h
  · cases h
  · rename_i hnew
    cases h
    exact ⟨hb, if_neg hnew⟩

theorem ignoresDetails_takeLong (body : List Char) : IgnoresDetails (·.takeLong body) := by
  unfold takeLong
  dsimp only
  cases Flag.ofName? (body.takeWhile (· ≠ '=')) with
  | none => exact ignoresDetails_setCount _
  | some flag =>
      by_cases hname : body.takeWhile (· ≠ '=') = body
      · simp only [if_pos hname]
        exact ignoresDetails_setFlag flag
      · simp only [if_neg hname]
        exact .error _

theorem ignoresDetails_takeLetters (letters : List Char) :
    IgnoresDetails (·.takeLetters letters) := by
  induction letters with
  | nil => exact .ok
  | cons c rest ih =>
      unfold takeLetters
      cases Flag.ofLetter? c with
      | none => exact .error _
      | some flag => exact (ignoresDetails_setFlag flag).bind ih

theorem ignoresDetails_takeShort (letters : List Char) : IgnoresDetails (·.takeShort letters) := by
  intro a b h hb
  -- Whether the letters are taken for a count depends on the count alone.
  simp only [takeShort] at h ⊢
  split at h
  · rename_i hcount
    obtain ⟨hquiet, htake⟩ := ignoresDetails_setCount _ a b h hb
    exact ⟨hquiet, (if_pos hcount).trans htake⟩
  · rename_i hcount
    obtain ⟨hquiet, htake⟩ := ignoresDetails_takeLetters _ a b h hb
    exact ⟨hquiet, (if_neg hcount).trans htake⟩

theorem ignoresDetails_take (arg : List Char) : IgnoresDetails (·.take arg) := by
  unfold take
  split
  · exact ignoresDetails_takeLong _
  · exact ignoresDetails_takeShort _
  · exact ignoresDetails_setCount _

theorem ignoresDetails_setCounts (args : List String) :
    IgnoresDetails (args.foldlM fun a arg => a.setCount arg.toList) := by
  induction args with
  | nil => exact .ok
  | cons arg rest ih => exact (ignoresDetails_setCount _).bind ih

theorem ignoresDetails_takeAll (args : List String) : IgnoresDetails (·.takeAll args) := by
  induction args with
  | nil => exact .ok
  | cons arg rest ih =>
      unfold takeAll
      split
      · exact ignoresDetails_setCounts rest
      · exact (ignoresDetails_take _).bind ih

/-- Arguments before `--` are taken first. -/
theorem takeAll_append {before : List String} (h : "--" ∉ before) (after : List String)
    (a : Arguments) : a.takeAll (before ++ after) = a.takeAll before >>= (·.takeAll after) := by
  induction before generalizing a with
  | nil => rfl
  | cons arg rest ih =>
      have hne : arg ≠ "--" := (List.ne_of_not_mem_cons h).symm
      rw [List.cons_append, takeAll, takeAll, if_neg hne, if_neg hne]
      cases a.take arg.toList with
      | error e => rfl
      | ok b => exact ih (List.not_mem_of_not_mem_cons h) b

/-- **The flag for details** may stand anywhere before `--`, and asks for nothing else. -/
theorem parse_insert_detailed {before after : List String} {flag : String} {a : Arguments}
    (hflag : flag ∈ ["-v", "--verbose"]) (hbefore : "--" ∉ before)
    (h : parse (before ++ after) = .ok a) (hquiet : a.verbose = false) :
    parse (before ++ flag :: after) = .ok a.detailed := by
  rw [parse, takeAll_append hbefore] at h ⊢
  obtain ⟨b, hb, h⟩ := bind_eq_ok_iff.mp h
  obtain ⟨hbquiet, hafter⟩ := ignoresDetails_takeAll after b a h hquiet
  have htake : b.take flag.toList = .ok b.detailed := by
    have hset : b.setFlag .verbose = .ok b.detailed := if_neg (by rw [hbquiet]; decide)
    simp only [List.mem_cons, List.not_mem_nil, or_false] at hflag
    rcases hflag with rfl | rfl
    · have hshort : b.takeShort ['v'] = b.takeLetters ['v'] := if_neg (by simp [Flag.ofLetter?])
      show b.takeShort ['v'] = _
      rw [hshort]
      show (b.setFlag .verbose >>= (·.takeLetters [])) = _
      rw [hset]
      rfl
    · exact hset
  have hne : flag ≠ "--" := by
    intro heq
    rw [heq] at hflag
    exact absurd hflag (by decide)
  refine bind_eq_ok_iff.mpr ⟨b, hb, ?_⟩
  rw [takeAll, if_neg hne, htake]
  exact hafter

end Arguments

/-! ### Runs -/

namespace Settings

variable {settings : Settings} {disk : Disk} {env env' : Environment}

/-- There is a command if and only if there are documents. -/
theorem command_isOk_iff (count : Nat) (layout : Layout) :
    (∃ command, (settings.command disk env count layout).1 = .ok command) ↔
      ∃ inputs : Inputs, inputs.LieOn disk settings := by
  simp only [← Inputs.load_eq_ok_iff]
  unfold Settings.command
  cases Inputs.load disk settings with
  | error e => exact iff_of_false nofun nofun
  | ok inputs => exact iff_of_true ⟨_, rfl⟩ ⟨inputs, rfl⟩

theorem command_congr
    (h : ∀ name, Profiles.Substitutes disk settings.deviceProfileDir name → env name = env' name)
    (count : Nat) (layout : Layout) :
    settings.command disk env count layout = settings.command disk env' count layout := by
  unfold Settings.command
  rw [Profiles.load_congr h]

end Settings

namespace Program

/-- The status and the output of a run. -/
def answer (o : Outcome) : Nat × String := (o.status, o.output)

/-- **One run** answers with its command or with nothing. -/
theorem answer_run (args : Arguments) (env : Environment) (settings : Settings)
    (results : Option FileError) (disk : Disk) :
    answer (run args env settings results disk) =
      match (settings.command disk env (roundCount args.count) (layoutOf args)).1 with
      | .ok command => (0, command ++ "\n")
      | .error _ => (1, "") := by
  unfold run
  match settings.command disk env (roundCount args.count) (layoutOf args) with
  | (.ok command, log) => rfl
  | (.error e, log) => rfl

theorem run_cases (args : Arguments) (env : Environment) (settings : Settings)
    (results : Option FileError) (disk : Disk) :
    let command := (settings.command disk env (roundCount args.count) (layoutOf args)).1
    let outcome := run args env settings results disk
    (∃ text, command = .ok text ∧ outcome.status = 0 ∧ outcome.output = text ++ "\n") ∨
      (∃ e, command = .error e) ∧ outcome.status = 1 ∧ outcome.output = "" := by
  intro command outcome
  simp only [command, outcome]
  unfold run
  match settings.command disk env (roundCount args.count) (layoutOf args) with
  | (.ok text, log) => exact .inl ⟨text, rfl, rfl, rfl⟩
  | (.error e, log) => exact .inr ⟨⟨e, rfl⟩, rfl, rfl⟩

section Run

variable {args args' : Arguments} {env env' : Environment} {settings settings' : Settings}
  {results results' : Option FileError} {disk disk' : Disk}

/-- A run succeeds if and only if it finds both documents, whatever it was asked for and whatever
became of the directory of results. -/
theorem run_status_eq_zero_iff :
    (run args env settings results disk).status = 0 ↔
      ∃ inputs : Inputs, inputs.LieOn disk settings := by
  rcases run_cases args env settings results disk with
    ⟨text, hcommand, hstatus, -⟩ | ⟨⟨e, hcommand⟩, hstatus, -⟩
  · exact iff_of_true hstatus ((Settings.command_isOk_iff _ _).mp ⟨text, hcommand⟩)
  · rw [hstatus, ← Settings.command_isOk_iff, hcommand]
    exact iff_of_false (by decide) nofun

theorem run_status_congr (h : (∃ inputs : Inputs, inputs.LieOn disk settings) ↔
      ∃ inputs : Inputs, inputs.LieOn disk' settings') :
    (run args env settings results disk).status =
      (run args' env' settings' results' disk').status := by
  have hzero : (run args env settings results disk).status = 0 ↔
      (run args' env' settings' results' disk').status = 0 := by
    rw [run_status_eq_zero_iff, run_status_eq_zero_iff, h]
  rcases run_cases args env settings results disk with ⟨-, -, hstatus, -⟩ | ⟨-, hstatus, -⟩ <;>
    rcases run_cases args' env' settings' results' disk' with
      ⟨-, -, hstatus', -⟩ | ⟨-, hstatus', -⟩ <;>
    omega

/-- The flag for details does not show in an answer. -/
theorem answer_run_detailed (h : args'.detailed = args.detailed) :
    answer (run args' env settings results disk) = answer (run args env settings results disk) := by
  obtain ⟨hcount, hmultiline, -⟩ := Arguments.mk.inj h
  have hlayout : layoutOf args' = layoutOf args := by rw [layoutOf, layoutOf, hmultiline]
  rw [answer_run, answer_run, hcount, hlayout]

/-- Of the environment, an answer depends on what profile files substitute. -/
theorem answer_run_congr
    (h : ∀ name, Profiles.Substitutes disk settings.deviceProfileDir name → env name = env' name) :
    answer (run args env settings results disk) = answer (run args env' settings results disk) := by
  rw [answer_run, answer_run, Settings.command_congr h]

end Run

/-- The files as they are after the attempt to create the directory of results. -/
def prepared (settings : Settings) (tree : FileTree) : Disk :=
  (tree.createDirectories settings.resultsDir).1.disk

variable {args : List String} {a : Arguments}

theorem runOnTree_eq (h : Arguments.parse args = .ok a) (tree : FileTree) (env : Environment)
    (now : String) :
    runOnTree tree env now args =
      run a env (Settings.ofEnvironment env now)
        (tree.createDirectories (Settings.ofEnvironment env now).resultsDir).2
        (prepared (Settings.ofEnvironment env now) tree) := by
  rw [runOnTree, h]
  rfl

/-- **All or nothing.** A run that is asked for succeeds if and only if both documents can be read
as text and are accepted, on the files as they are after the attempt to create the directory of
results. It prints its command and a line feed then, and nothing otherwise. The same documents give
the same status, whatever else is asked for, set, or stands in other files, and a document may name
any workloads and kinds of steps. The flag for details makes no difference to what is printed, and
neither does the variable of the log filter unless a profile file substitutes it. -/
theorem all_or_nothing (h : Arguments.parse args = .ok a) (tree : FileTree) (env : Environment)
    (now : String) :
    let settings := Settings.ofEnvironment env now
    let disk := prepared settings tree
    let outcome := runOnTree tree env now args
    (outcome.status = 0 ↔ ∃ inputs : Inputs, inputs.LieOn disk settings) ∧
    (outcome.status = 0 → ∃ command,
      (settings.command disk env (roundCount a.count) (layoutOf a)).1 = .ok command ∧
        outcome.output = command ++ "\n") ∧
    (outcome.status ≠ 0 → outcome.status = 1 ∧ outcome.output = "") ∧
    (∀ args' a' tree' env' now', Arguments.parse args' = .ok a' →
      (∀ key ∈ Settings.documentKeys, env key = env' key) →
      (∀ path ∈ [settings.cameraDocumentPath, settings.workloadDocumentPath],
        disk.read path = (prepared settings tree').read path) →
      (runOnTree tree' env' now' args').status = outcome.status) ∧
    (∀ cameras ws, disk.Holds settings.cameraDocumentPath Camera.parseDocument cameras →
      (∀ w ∈ ws, ∀ s ∈ w.2, s.kind.Named) →
      disk.readText settings.workloadDocumentPath = .ok (WorkloadMap.documentText ws) →
      outcome.status = 0) ∧
    (∀ args' a', Arguments.parse args' = .ok a' → a'.detailed = a.detailed →
      answer (runOnTree tree env now args') = answer outcome) ∧
    (∀ before flag after, flag ∈ ["-v", "--verbose"] → "--" ∉ before → before ++ after = args →
      a.verbose = false →
      answer (runOnTree tree env now (before ++ flag :: after)) = answer outcome) ∧
    (∀ env', (∀ key, key ≠ "RUST_LOG" → env key = env' key) →
      ¬Profiles.Substitutes disk settings.deviceProfileDir "RUST_LOG" →
      answer (runOnTree tree env' now args) = answer outcome) := by
  intro settings disk outcome
  let results := (tree.createDirectories settings.resultsDir).2
  have houtcome : outcome = run a env settings results disk := runOnTree_eq h tree env now
  have hstatus : outcome.status = 0 ↔ ∃ inputs : Inputs, inputs.LieOn disk settings := by
    rw [houtcome]
    exact run_status_eq_zero_iff
  have hcases := run_cases a env settings results disk
  rw [← houtcome] at hcases
  have hdetails : ∀ args' a', Arguments.parse args' = .ok a' → a'.detailed = a.detailed →
      answer (runOnTree tree env now args') = answer outcome := by
    intro args' a' h' hdetailed
    rw [houtcome, runOnTree_eq h']
    exact answer_run_detailed hdetailed
  refine ⟨hstatus, ?printed, ?silent, ?documents, ?names, hdetails, ?flag, ?filter⟩
  case printed =>
    intro hzero
    rcases hcases with ⟨text, hcommand, -, houtput⟩ | ⟨-, hone, -⟩
    · exact ⟨text, hcommand, houtput⟩
    · exact absurd (hzero.symm.trans hone) (by decide)
  case silent =>
    intro hne
    rcases hcases with ⟨-, -, hzero, -⟩ | ⟨-, hone, houtput⟩
    · exact absurd hzero hne
    · exact ⟨hone, houtput⟩
  case documents =>
    intro args' a' tree' env' now' h' hkeys hread
    have hsame : settings.SameDocuments (Settings.ofEnvironment env' now') :=
      Settings.ofEnvironment_sameDocuments hkeys now now'
    rw [houtcome, runOnTree_eq h', prepared, ← hsame.results]
    refine run_status_congr (exists_congr fun inputs => ?_)
    exact (Inputs.LieOn.congr hsame hread).symm
  case names =>
    intro cameras ws hcameras hnamed htext
    obtain ⟨bytes, hread, hdecoded⟩ := Disk.readText_eq_ok_iff.mp htext
    have hworkloads := WorkloadMap.parseDocument_documentText hnamed
    exact hstatus.mpr ⟨⟨cameras, _⟩, hcameras, bytes, _, hread, hdecoded, hworkloads⟩
  case flag =>
    intro before flag after hflag hbefore hargs hquiet
    have hinserted := Arguments.parse_insert_detailed hflag hbefore (hargs ▸ h) hquiet
    exact hdetails _ a.detailed hinserted rfl
  case filter =>
    intro env' hkeys hsubstitutes
    have hsettings : Settings.ofEnvironment env' now = settings :=
      (Settings.ofEnvironment_congr hkeys now).symm
    rw [houtcome, runOnTree_eq h, hsettings]
    refine (answer_run_congr fun name hname => hkeys name ?_).symm
    rintro rfl
    exact hsubstitutes hname

/-- A run with a count that is none, a bad batch size, a profile that breaks off inside a name, and
a file where the results should go. -/
theorem all_or_nothing_bad_settings :
    let bytes (text : String) := FileNode.file (text.toList.map Char.toNat)
    let tree := FileTree.ofEntries
      [("c/camera_to_workload.json",
          bytes "\x7b\"lane_config\":\x7b\"cameras\":[\x7b\"workloads\":\"W\"\x7d]\x7d\x7d"),
        ("c/workload_to_pipeline.json",
          bytes "\x7b\"workload_pipeline_map\":\x7b\"w\":[\x7b\"type\":\"odd\"\x7d]\x7d\x7d"),
        ("p/all-cpu.env", bytes "DECODE=$\x7bRUST_LOG"), ("s", .file [])]
    let env (key : String) := KeyedList.first? key
      [("CONFIG_DIR", "c"), ("PIPELINE_SERVER_DIR", "s"), ("DEVICE_PROFILE_DIR", "p"),
        ("BATCH_SIZE_DETECT", "few")]
    let filtered (filter key : String) := if key = "RUST_LOG" then some filter else env key
    (tree.createDirectories (Settings.ofEnvironment env "0").resultsDir).2 = some .notDirectory ∧
      (runOnTree tree env "0" ["many"]).status = 0 ∧
      (∃ command, (runOnTree tree env "0" ["many"]).output = command ++ "\n") ∧
      answer (runOnTree tree env "0" ["-v", "many"]) = answer (runOnTree tree env "0" ["many"]) ∧
      ∀ filter, answer (runOnTree tree (filtered filter) "0" ["many"]) =
        answer (runOnTree tree env "0" ["many"]) := by
  intro bytes tree env filtered
  have hargs : Arguments.parse ["many"] = .ok { count := some "many" } := rfl
  obtain ⟨hstatus, hprinted, -, -, -, -, hflag, hfilter⟩ := all_or_nothing hargs tree env "0"
  have hloaded : (Inputs.load (prepared (Settings.ofEnvironment env "0") tree)
      (Settings.ofEnvironment env "0")).isOk := by
    decide +kernel
  obtain ⟨inputs, hload⟩ := isOk_iff.mp hloaded
  have hzero := hstatus.mpr ⟨inputs, Inputs.load_eq_ok_iff.mp hload⟩
  obtain ⟨command, -, houtput⟩ := hprinted hzero
  have hnames : ∀ entry ∈ Profiles.deviceFiles,
      ∀ bytes ∈ ((prepared (Settings.ofEnvironment env "0") tree).read
        (Path.join "p" entry.2)).toOption, "RUST_LOG".toList ∉ EnvFile.names bytes := by
    decide +kernel
  refine ⟨by decide +kernel, hzero, ⟨command, houtput⟩,
    hflag [] "-v" ["many"] (by decide) (by decide) rfl rfl, fun filter => ?_⟩
  refine hfilter (filtered filter) (fun key hkey => (if_neg hkey).symm) ?_
  rintro ⟨entry, hentry, bytes, hread, hname⟩
  exact hnames entry hentry bytes (congrArg Except.toOption hread) hname

end Program
end CameraGraph
