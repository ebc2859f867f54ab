import CameraGraph.Proofs.ProfileVariables

/-!
# CameraGraph.Proofs.ProfileFiles

What becomes of each profile file.

A file counts if it is there, can be read and has no line that is refused; then its device has the
keys that the file defines (`EnvFile.definitions`). Otherwise nothing of it is kept. Reading a file
stops at the first line that is refused, and why a line is refused depends on that line alone, so
reading adds up to a search for a bad line beside a list of keys that takes no notice of it
(`EnvFile.parse_eq`). One file gives its own device a profile, or none (`Profiles.loadDevice_eq`),
and all files together give the profiles of those that count (`Profiles.load_eq`).
-/

namespace CameraGraph

/-! ### Letter case -/

namespace Text

/-- The code points of the letters that device names are made of. No character beyond ASCII has an
upper-case form with none but these letters in it. -/
def deviceLetters : List Nat := [0x43, 0x47, 0x4E, 0x50, 0x55]

theorem notMem_deviceLetters {n : Nat} (h : 0x80 ≤ n) : n ∉ deviceLetters := by
  have hascii : ∀ m ∈ deviceLetters, m < 0x80 := by decide
  intro hmem
  exact absurd (hascii n hmem) (Nat.not_lt.mpr h)

theorem ofNat_notMem_deviceLetters {n : Nat} (h : n ∉ deviceLetters) :
    (Char.ofNat n).toNat ∉ deviceLetters := by
  by_cases hvalid : n.isValidChar
  · have hself : (Char.ofNat n).toNat = n := by
      rw [Char.ofNat, dif_pos hvalid]
      rfl
    rwa [hself]
  · have hzero : (Char.ofNat n).toNat = 0 := by
      rw [Char.ofNat, dif_neg hvalid]
      rfl
    rw [hzero]
    decide

theorem upperSequences_letters : ∀ entry ∈ upperSequences, ∃ n ∈ entry.2, n ∉ deviceLetters := by
  decide +kernel

/-- Whatever a run maps to is beyond ASCII, but for two runs of one character. -/
theorem upperRuns_letters :
    ∀ r ∈ upperRuns, 0x80 ≤ r.target ∨ r.first = r.last ∧ r.target ∉ deviceLetters := by
  decide +kernel

theorem map?_notMem_deviceLetters {n m : Nat} {r : CaseRun} (hr : r ∈ upperRuns)
    (h : r.map? n = some m) : m ∉ deviceLetters := by
  unfold CaseRun.map? at h
  split at h
  · rename_i hrange
    cases h
    simp only [Bool.and_eq_true, decide_eq_true_eq] at hrange
    rcases upperRuns_letters r hr with hbeyond | ⟨hone, hletter⟩
    · exact notMem_deviceLetters (by omega)
    · have hfirst : n - r.first = 0 := by omega
      rwa [hfirst, Nat.add_zero]
  · cases h

/-- A character beyond ASCII has an upper-case form with something else than these letters in it. -/
theorem exists_notMem_upperChar {c : Char} (h : 0x80 ≤ c.toNat) :
    ∃ u ∈ upperChar c, u.toNat ∉ deviceLetters := by
  rw [upperChar, if_neg (Nat.not_lt.mpr h), mapCase]
  split
  · rename_i ns hns
    obtain ⟨before, after, hentries, -⟩ := List.lookup_eq_some_iff.mp hns
    have hentry : (c.toNat, ns) ∈ upperSequences := by
      rw [hentries]
      exact List.mem_append_right _ List.mem_cons_self
    obtain ⟨n, hn, hletter⟩ := upperSequences_letters _ hentry
    exact ⟨_, List.mem_map_of_mem hn, ofNat_notMem_deviceLetters hletter⟩
  · split
    · rename_i m hm
      obtain ⟨r, hr, hmap⟩ := List.exists_of_findSome?_eq_some hm
      have hletter := map?_notMem_deviceLetters hr hmap
      exact ⟨_, List.mem_singleton_self _, ofNat_notMem_deviceLetters hletter⟩
    · exact ⟨c, List.mem_singleton_self c, notMem_deviceLetters h⟩

theorem flatMap_upperChar {cs : List Char} (h : ∀ c ∈ cs, c.toNat < 0x80) :
    cs.flatMap upperChar = cs.map Char.toUpper := by
  induction cs with
  | nil => rfl
  | cons c r ih =>
      obtain ⟨hc, hr⟩ := List.forall_mem_cons.mp h
      rw [List.flatMap_cons, List.map_cons, upperChar, if_pos hc, ih hr, List.singleton_append]

/-- Only small letters of ASCII are changed by the simple mapping. -/
theorem toUpper_eq_self {c : Char} (h : 0x80 ≤ c.toNat) : c.toUpper = c := by
  unfold Char.toUpper
  refine dif_neg fun hsmall => ?_
  have hle : c.toNat ≤ 'z'.toNat := UInt32.le_iff_toNat_le.mp hsmall.2
  exact absurd (Nat.le_trans h hle) (by decide)

/-- **Letter case.** A name in upper case is a text of these letters just if it is that text in some
letter case of ASCII. -/
theorem upper_eq_iff {name device : String} (h : ∀ u ∈ device.toList, u.toNat ∈ deviceLetters) :
    upper name = device ↔ name.toList.map Char.toUpper = device.toList := by
  rw [upper, ← String.toList_inj, String.toList_ofList]
  constructor
  · intro hupper
    have hascii : ∀ c ∈ name.toList, c.toNat < 0x80 := by
      intro c hc
      by_contra hbeyond
      obtain ⟨u, hu, hletter⟩ := exists_notMem_upperChar (Nat.not_lt.mp hbeyond)
      exact hletter (h u (hupper ▸ List.mem_flatMap.mpr ⟨c, hc, hu⟩))
    rw [← flatMap_upperChar hascii, hupper]
  · intro hmap
    have hascii : ∀ c ∈ name.toList, c.toNat < 0x80 := by
      intro c hc
      by_contra hbeyond
      have hletter : c.toUpper.toNat ∈ deviceLetters := h _ (hmap ▸ List.mem_map_of_mem hc)
      rw [toUpper_eq_self (Nat.not_lt.mp hbeyond)] at hletter
      exact notMem_deviceLetters (Nat.not_lt.mp hbeyond) hletter
    rw [flatMap_upperChar hascii, hmap]

end Text

/-! ### One file -/

namespace EnvFile

/-- The lines of a file, joined where a quote or an escape is left open. -/
def lines (bytes : List Nat) : List (Except Error (List Char)) :=
  joinLines [] .plain (cutLines bytes)

/-- Why a line is refused, if it is. Neither variables nor earlier keys have a part in that. -/
def lineRefusal? : Except Error (List Char) → Option Error
  | .error e => some e
  | .ok line =>
    match splitLine line with
    | .error e => some e
    | .ok none => none
    | .ok (some (_, c)) => refusal? (valueAt (fun _ => []) c)

/-- The key that a line defines behind earlier ones, with its value. -/
def lineKey? (env : Environment) (pairs : List (String × String)) :
    Except Error (List Char) → Option (String × String)
  | .error _ => none
  | .ok line =>
    match splitLine line with
    | .ok (some (key, c)) => (valueAt (substitute env pairs) c).toOption.map fun value =>
        (String.ofList key, String.ofList value)
    | _ => none

/-- The keys that lines define behind earlier ones, with their values, in order. Names in a value
stand for variables or for the keys before it. -/
def definitions (env : Environment) (pairs : List (String × String)) :
    List (Except Error (List Char)) → List (String × String)
  | [] => []
  | line :: rest =>
    let added := (lineKey? env pairs line).toList
    added ++ definitions env (pairs ++ added) rest

/-- **One line.** It is refused, or its key is added. -/
theorem addLine_cases (env : Environment) (pairs : List (String × String))
    (line : Except Error (List Char)) :
    (line >>= addLine env pairs) = match lineRefusal? line with
      | some e => .error e
      | none => .ok (pairs ++ (lineKey? env pairs line).toList) := by
  cases line with
  | error e => rfl
  | ok line =>
      show addLine env pairs line = _
      rw [addLine_eq, lineRefusal?, lineKey?]
      match splitLine line with
      | .error e => rfl
      | .ok none => simp
      | .ok (some (key, c)) =>
          simp only [valueAt_refusal? (fun _ => []) (substitute env pairs) c]
          cases valueAt (substitute env pairs) c <;> rfl

/-- **All lines.** The first that is refused spoils the keys of all others. -/
theorem addLines_eq (env : Environment) (pairs : List (String × String))
    (lines : List (Except Error (List Char))) :
    addLines env pairs lines = match lines.findSome? lineRefusal? with
      | some e => .error e
      | none => .ok (pairs ++ definitions env pairs lines) := by
  induction lines generalizing pairs with
  | nil => rw [addLines_nil, List.findSome?_nil, definitions, List.append_nil]
  | cons line rest ih =>
      have hstep : addLines env pairs (line :: rest) =
          (line >>= addLine env pairs) >>= fun added => addLines env added rest := rfl
      rw [hstep, addLine_cases, List.findSome?_cons]
      cases lineRefusal? line with
      | some e => rfl
      | none =>
          show addLines env _ rest = _
          rw [ih, definitions, List.append_assoc]

/-- **One file.** -/
theorem parse_eq (env : Environment) (bytes : List Nat) :
    parse env bytes = match (lines bytes).findSome? lineRefusal? with
      | some e => .error e
      | none => .ok (definitions env [] (lines bytes)) :=
  addLines_eq env [] (lines bytes)

end EnvFile

/-! ### All files -/

namespace Profiles

/-- A name is a device in some letter case. -/
def Names (device name : String) : Prop := name.toList.map Char.toUpper = device.toList

instance (device name : String) : Decidable (Names device name) :=
  inferInstanceAs (Decidable (_ = _))

/-- A file is there, can be read, and no line of it is refused. -/
structure Counts (disk : Disk) (path : Path) (bytes : List Nat) : Prop where
  /-- It is there. -/
  present : disk.has path
  /-- It can be read. -/
  read : disk.read path = .ok bytes
  /-- No line is refused, not even the last. -/
  accepted : ∀ line ∈ EnvFile.lines bytes, EnvFile.lineRefusal? line = none

/-- Why a file that is there does not count. -/
def fileRefusal? (disk : Disk) (path : Path) : Option EnvFile.Error :=
  if disk.has path then
    match disk.read path with
    | .error cause => some (.unreadable cause)
    | .ok bytes => (EnvFile.lines bytes).findSome? EnvFile.lineRefusal?
  else none

/-- The profile in a file that counts. -/
def fileTuning? (disk : Disk) (env : Environment) (path : Path) : Option Tuning :=
  if disk.has path then (readTuning disk env path).toOption else none

/-- The profiles of the devices whose files count. -/
def tunings (disk : Disk) (env : Environment) (dir : Path) (entries : List (String × String)) :
    List (String × Tuning) :=
  entries.filterMap fun entry =>
    (fileTuning? disk env (dir.join entry.2)).map (Text.upper entry.1, ·)

/-- One warning for each file that is there and does not count, with the reason. -/
def complaints (disk : Disk) (dir : Path) (entries : List (String × String)) : Log :=
  entries.flatMap fun entry => (fileRefusal? disk (dir.join entry.2)).toList.map fun e =>
    .warning ("ignoring device profile " ++ dir.join entry.2 ++ ": " ++ e.message)

variable {disk : Disk} {env : Environment} {dir path : Path} {bytes : List Nat}

theorem upper_eq_iff_names {entry : String × String} (h : entry ∈ deviceFiles) (name : String) :
    Text.upper name = entry.1 ↔ Names entry.1 name := by
  have hletters : ∀ e ∈ deviceFiles, ∀ n ∈ e.1.toList.map Char.toNat, n ∈ Text.deviceLetters := by
    decide
  exact Text.upper_eq_iff fun u hu => hletters entry h u.toNat (List.mem_map_of_mem hu)

theorem upper_device {entry : String × String} (h : entry ∈ deviceFiles) :
    Text.upper entry.1 = entry.1 := by
  have hupper : ∀ e ∈ deviceFiles, e.1.toList.map Char.toUpper = e.1.toList := by decide
  exact (upper_eq_iff_names h entry.1).mpr (hupper entry h)

theorem readTuning_eq (hread : disk.read path = .ok bytes) :
    readTuning disk env path = (EnvFile.parse env bytes).map Tuning.mk := by
  have hparse : readTuning disk env path = (do return ⟨← EnvFile.parse env bytes⟩) := by
    rw [readTuning, hread]
  rw [hparse]
  cases EnvFile.parse env bytes <;> rfl

theorem Counts.parse_eq (h : Counts disk path bytes) :
    EnvFile.parse env bytes = .ok (EnvFile.definitions env [] (EnvFile.lines bytes)) := by
  rw [EnvFile.parse_eq, List.findSome?_eq_none_iff.mpr h.accepted]

theorem fileRefusal?_eq_none_iff :
    fileRefusal? disk path = none ↔ disk.has path = false ∨ ∃ bytes, Counts disk path bytes := by
  unfold fileRefusal?
  constructor
  · intro h
    by_cases hpresent : disk.has path
    · rw [if_pos hpresent] at h
      cases hread : disk.read path with
      | error cause => simp [hread] at h
      | ok bytes =>
          simp only [hread, List.findSome?_eq_none_iff] at h
          exact .inr ⟨bytes, hpresent, hread, h⟩
    · exact .inl (Bool.eq_false_iff.mpr hpresent)
  · rintro (habsent | ⟨bytes, h⟩)
    · simp [habsent]
    · simp only [if_pos h.present, h.read]
      exact List.findSome?_eq_none_iff.mpr h.accepted

theorem Counts.fileTuning?_eq (h : Counts disk path bytes) :
    fileTuning? disk env path = some ⟨EnvFile.definitions env [] (EnvFile.lines bytes)⟩ := by
  rw [fileTuning?, if_pos h.present, readTuning_eq h.read, h.parse_eq]
  rfl

theorem fileRefusal?_eq (env : Environment) (h : disk.has path) :
    fileRefusal? disk path = EnvFile.refusal? (readTuning disk env path) := by
  rw [fileRefusal?, if_pos h]
  cases hread : disk.read path with
  | error cause =>
      rw [readTuning, hread]
      rfl
  | ok bytes =>
      rw [readTuning_eq hread, EnvFile.refusal?_map, EnvFile.parse_eq]
      show (EnvFile.lines bytes).findSome? EnvFile.lineRefusal? = _
      cases (EnvFile.lines bytes).findSome? EnvFile.lineRefusal? <;> rfl

/-- Nothing is kept of a file that does not count, not even of the lines before the bad one. -/
theorem fileTuning?_eq_none (h : ∀ bytes, ¬ Counts disk path bytes) :
    fileTuning? disk env path = none := by
  unfold fileTuning?
  by_cases hpresent : disk.has path
  · rw [if_pos hpresent]
    cases hread : readTuning disk env path with
    | error e => rfl
    | ok tuning =>
        have hnone : fileRefusal? disk path = none := by
          rw [fileRefusal?_eq env hpresent, hread]
          rfl
        rcases fileRefusal?_eq_none_iff.mp hnone with habsent | ⟨bytes, hcounts⟩
        · exact absurd hpresent (Bool.eq_false_iff.mp habsent)
        · exact absurd hcounts (h bytes)
  · rw [if_neg hpresent]

theorem tunings_cons (entry : String × String) (rest : List (String × String)) :
    tunings disk env dir (entry :: rest) =
      ((fileTuning? disk env (dir.join entry.2)).map (Text.upper entry.1, ·)).toList ++
        tunings disk env dir rest := by
  rw [tunings, List.filterMap_cons]
  cases fileTuning? disk env (dir.join entry.2) <;> rfl

theorem loadDevice_present {entry : String × String} (h : disk.has (dir.join entry.2))
    (p : Profiles) :
    loadDevice disk env dir p entry = match readTuning disk env (dir.join entry.2) with
      | .ok tuning => (p.add entry.1 tuning, [])
      | .error e =>
        (p, [.warning ("ignoring device profile " ++ dir.join entry.2 ++ ": " ++ e.message)]) := by
  rw [loadDevice]
  simp only [h]
  rfl

/-- **One file.** It adds a profile or a warning, whatever files came before it. -/
theorem loadDevice_eq (disk : Disk) (env : Environment) (dir : Path) (p : Profiles)
    (entry : String × String) :
    (loadDevice disk env dir p entry).1.entries =
      p.entries ++ ((fileTuning? disk env (dir.join entry.2)).map (Text.upper entry.1, ·)).toList ∧
    (loadDevice disk env dir p entry).2.warnings = complaints disk dir [entry] := by
  rw [complaints, List.flatMap_singleton]
  by_cases hpresent : disk.has (dir.join entry.2)
  · rw [loadDevice_present hpresent, fileRefusal?_eq env hpresent, fileTuning?,
      if_pos hpresent]
    cases readTuning disk env (dir.join entry.2) with
    | error e => exact ⟨(List.append_nil _).symm, rfl⟩
    | ok tuning => exact ⟨rfl, rfl⟩
  · rw [loadDevice, fileRefusal?, fileTuning?, if_neg hpresent, if_neg hpresent]
    simp [hpresent]

/-- What is loaded once the files of more devices are. -/
def loadMore (disk : Disk) (env : Environment) (dir : Path) (loaded : Profiles × Log)
    (entries : List (String × String)) : Profiles × Log :=
  entries.foldl (fun acc entry =>
    let (p, log) := loadDevice disk env dir acc.1 entry
    (p, acc.2 ++ log)) loaded

theorem loadMore_cons (loaded : Profiles × Log) (entry : String × String)
    (rest : List (String × String)) :
    loadMore disk env dir loaded (entry :: rest) =
      loadMore disk env dir ((loadDevice disk env dir loaded.1 entry).1,
        loaded.2 ++ (loadDevice disk env dir loaded.1 entry).2) rest := rfl

/-- **Several files.** Each is treated as if it were the only one. -/
theorem loadMore_eq (loaded : Profiles × Log) (entries : List (String × String)) :
    (loadMore disk env dir loaded entries).1.entries =
      loaded.1.entries ++ tunings disk env dir entries ∧
    (loadMore disk env dir loaded entries).2.warnings =
      loaded.2.warnings ++ complaints disk dir entries := by
  induction entries generalizing loaded with
  | nil => exact ⟨(List.append_nil _).symm, (List.append_nil _).symm⟩
  | cons entry rest ih =>
      obtain ⟨hprofile, hwarning⟩ := loadDevice_eq disk env dir loaded.1 entry
      obtain ⟨hprofiles, hwarnings⟩ := ih ((loadDevice disk env dir loaded.1 entry).1,
        loaded.2 ++ (loadDevice disk env dir loaded.1 entry).2)
      have hcomplaints : complaints disk dir (entry :: rest) =
          complaints disk dir [entry] ++ complaints disk dir rest := by
        simp only [complaints, List.flatMap_cons, List.flatMap_nil, List.append_nil]
      rw [loadMore_cons, hprofiles, hwarnings, hprofile, Log.warnings_append, hwarning,
        tunings_cons, hcomplaints, List.append_assoc, List.append_assoc]
      exact ⟨rfl, rfl⟩

/-- **All files.** -/
theorem load_eq (disk : Disk) (env : Environment) (dir : Path) :
    (load disk env dir).1.entries = tunings disk env dir deviceFiles ∧
      (load disk env dir).2.warnings = complaints disk dir deviceFiles := by
  have hload : load disk env dir = loadMore disk env dir ({}, []) deviceFiles := rfl
  rw [hload, (loadMore_eq _ _).1, (loadMore_eq _ _).2]
  exact ⟨List.nil_append _, List.nil_append _⟩

/-- A device has the profile in its file. -/
theorem tuning_load {entry : String × String} (h : entry ∈ deviceFiles) {name : String}
    (hname : Names entry.1 name) :
    (load disk env dir).1.tuning name = (fileTuning? disk env (dir.join entry.2)).getD {} := by
  have hdistinct : (deviceFiles.map fun e => Text.upper e.1).Nodup := by decide +kernel
  have hlast : KeyedList.last? (Text.upper entry.1) (tunings disk env dir deviceFiles) =
      fileTuning? disk env (dir.join entry.2) := KeyedList.last?_filterMap hdistinct h
  rw [tuning, (load_eq disk env dir).1, (upper_eq_iff_names h name).mpr hname, ← upper_device h,
    hlast]

/-- A name that is no device has no profile. -/
theorem tuning_load_other {name : String} (h : ∀ entry ∈ deviceFiles, ¬ Names entry.1 name) :
    (load disk env dir).1.tuning name = {} := by
  have hnone : KeyedList.last? (Text.upper name) (tunings disk env dir deviceFiles) = none := by
    refine KeyedList.last?_eq_none_iff.mpr fun p hp hkey => ?_
    obtain ⟨entry, hentry, hpair⟩ := List.mem_filterMap.mp hp
    obtain ⟨t, -, rfl⟩ := Option.map_eq_some_iff.mp hpair
    exact h entry hentry ((upper_eq_iff_names hentry name).mp (hkey ▸ upper_device hentry))
  rw [tuning, (load_eq disk env dir).1, hnone]
  rfl

/-- **Files that count wholly or not at all.** For every directory: a device, in any letter case, has
the last value of each key that its file defines if the file is there, can be read and has no bad
line, and no value at all otherwise; every other name has none. The run warns of just those files
that are there and do not count, once of each. A device keeps its profile when the file of another
is changed. -/
theorem file_counts_wholly_or_not (disk : Disk) (env : Environment) (dir : Path) :
    (∀ entry ∈ deviceFiles, ∀ name, Names entry.1 name →
      (∀ bytes, Counts disk (dir.join entry.2) bytes → ∀ key value,
        ((load disk env dir).1.tuning name).get key = some value ↔
          ∃ before after,
            EnvFile.definitions env [] (EnvFile.lines bytes) = before ++ (key, value) :: after ∧
              ∀ p ∈ after, p.1 ≠ key) ∧
      ((∀ bytes, ¬ Counts disk (dir.join entry.2) bytes) →
        (load disk env dir).1.tuning name = {})) ∧
    (∀ name, (∀ entry ∈ deviceFiles, ¬ Names entry.1 name) →
      (load disk env dir).1.tuning name = {}) ∧
    (load disk env dir).2.warnings = complaints disk dir deviceFiles ∧
    (∀ path, fileRefusal? disk path = none ↔
      disk.has path = false ∨ ∃ bytes, Counts disk path bytes) ∧
    ∀ entry ∈ deviceFiles, ∀ changed : Disk,
      (∀ other ∈ deviceFiles, other ≠ entry →
        changed.has (dir.join other.2) = disk.has (dir.join other.2) ∧
          changed.read (dir.join other.2) = disk.read (dir.join other.2)) →
      ∀ name, ¬ Names entry.1 name →
        (load changed env dir).1.tuning name = (load disk env dir).1.tuning name := by
  refine ⟨?tunings, fun name => tuning_load_other, (load_eq disk env dir).2,
    fun path => fileRefusal?_eq_none_iff, ?change⟩
  case tunings =>
    intro entry hentry name hname
    rw [tuning_load hentry hname]
    constructor
    · intro bytes hcounts key value
      rw [hcounts.fileTuning?_eq, Option.getD_some, Tuning.get, KeyedList.last?_eq_some_iff]
    · intro hnot
      rw [fileTuning?_eq_none hnot, Option.getD_none]
  case change =>
    intro entry hentry changed hchanged name hname
    by_cases hdevice : ∃ other ∈ deviceFiles, Names other.1 name
    · obtain ⟨other, hother, hnames⟩ := hdevice
      have hne : other ≠ entry := fun heq => hname (heq ▸ hnames)
      obtain ⟨hhas, hread⟩ := hchanged other hother hne
      rw [tuning_load hother hnames, tuning_load hother hnames, fileTuning?, fileTuning?,
        readTuning, readTuning, hhas, hread]
    · have hnone : ∀ other ∈ deviceFiles, ¬ Names other.1 name := by
        intro other hother hnames
        exact hdevice ⟨other, hother, hnames⟩
      rw [tuning_load_other hnone, tuning_load_other hnone]

/-- A file with lines that are joined and a key given twice counts; one with a bad line behind a good
one does not; the third is missing. Without the second the first counts as before. -/
theorem file_counts_wholly_or_not_late_error :
    let good := ("X=1\nY=$X\nexport X=\"2\n3\"\n".toList).map Char.toNat
    let bad := ("A=1\nB C\n".toList).map Char.toNat
    let disk :=
      (FileTree.ofEntries [("d/all-cpu.env", .file good), ("d/all-npu.env", .file bad)]).disk
    let changed := (FileTree.ofEntries [("d/all-cpu.env", .file good)]).disk
    let result := load disk .empty "d"
    (result.1.tuning "Cpu").get "X" = some "2\n3" ∧ result.1.tuning "npu" = {} ∧
      result.1.tuning "TPU" = {} ∧
      result.2.warnings = [.warning ("ignoring device profile d/all-npu.env: " ++
        "Error parsing line: 'B C', error at line index: 2")] ∧
      (load changed .empty "d").1.tuning "Cpu" = result.1.tuning "Cpu" := by
  intro good bad disk changed result
  obtain ⟨htunings, hother, hwarnings, hrefusal, hchange⟩ :=
    file_counts_wholly_or_not disk .empty "d"
  have hgood : Counts disk (Path.join "d" "all-cpu.env") good :=
    { present := by decide +kernel
      read := by decide +kernel
      accepted := by decide +kernel }
  have hbad : ∀ bytes, ¬ Counts disk (Path.join "d" "all-npu.env") bytes := by
    intro bytes hcounts
    exact absurd ((hrefusal _).mpr (.inr ⟨bytes, hcounts⟩)) (by decide +kernel)
  have hcpu := htunings ("CPU", "all-cpu.env") (by decide) "Cpu" rfl
  have hnpu := htunings ("NPU", "all-npu.env") (by decide) "npu" rfl
  refine ⟨(hcpu.1 good hgood "X" "2\n3").mpr ?_, hnpu.2 hbad, hother "TPU" ?_, ?_, ?_⟩
  · exact ⟨[("X", "1"), ("Y", "1")], [], by decide +kernel, by decide⟩
  · decide
  · rw [hwarnings]
    decide +kernel
  · exact hchange ("NPU", "all-npu.env") (by decide) changed (by decide +kernel) "Cpu" (by decide)

end Profiles
end CameraGraph
