import CameraGraph.Profile.Load
import Mathlib.Data.List.Basic

/-!
# CameraGraph.Proofs.ProfileVariables

The variables that profile files ask for.

What a profile file comes to depends on the variables that its values name and on no others. Which
these are is read off the file alone (`EnvFile.names`): how a character of a value is read depends
on the quotes, escapes and names before it (`ValueState.frame`), and never on what an earlier name
stood for. So the names that come later do not depend on that either, nor does whether a line is
refused.
-/

namespace CameraGraph

namespace EnvFile

/-! ### One value -/

namespace ValueState

variable {f g : List Char → List Char}

/-- What decides how the next character is read. -/
def frame (s : ValueState) : ValueMode × Bool := (s.mode, s.weak)

@[simp] theorem frame_mk (mode : ValueMode) (weak : Bool) (output : List Char) :
    frame ⟨mode, weak, output⟩ = (mode, weak) := rfl

/-- The name that ends with a character. -/
def endedName? (s : ValueState) (c : Char) : Option (List Char) :=
  match s.mode with
  | .name read =>
    if Text.isAlphanumeric c then none else if c = '\x7b' && read.isEmpty then none else some read
  | .braced read => if c = '\x7d' then some read else none
  | _ => none

/-- The name that ends with the text. -/
def lastName? (s : ValueState) : Option (List Char) :=
  if s.weak then none
  else match s.mode with
    | .name read => some read
    | _ => none

/-- The names that a text asks for from a state on. Nothing stands for them here, which no later
character is read differently for. -/
def namesFrom (s : ValueState) : List Char → List (List Char)
  | [] => s.lastName?.toList
  | c :: rest =>
    (s.endedName? c).toList ++ match s.next? (fun _ => []) c with
      | some t => t.namesFrom rest
      | none => []

theorem next?_congr {s : ValueState} {c : Char} (h : ∀ name ∈ s.endedName? c, f name = g name) :
    s.next? f c = s.next? g c := by
  unfold next?
  unfold endedName? at h
  cases hmode : s.mode with
  | name read =>
      simp only [hmode] at h ⊢
      split
      · rfl
      · rename_i halnum
        rw [if_neg halnum] at h
        split
        · rfl
        · rename_i hbrace
          rw [if_neg hbrace] at h
          rw [h read rfl]
  | braced read =>
      simp only [hmode] at h ⊢
      split
      · rename_i hclose
        rw [if_pos hclose] at h
        rw [h read rfl]
      · rfl
  | text | escape | strong | done | comment => rfl

theorem finish?_congr {s : ValueState} (h : ∀ name ∈ s.lastName?, f name = g name) :
    s.finish? f = s.finish? g := by
  unfold finish?
  unfold lastName? at h
  split
  · rfl
  · rename_i hweak
    rw [if_neg hweak] at h
    cases hmode : s.mode with
    | name read =>
        simp only [hmode] at h ⊢
        rw [h read rfl]
    | text | escape | strong | braced | done | comment => rfl

/-- **One character** is read by the frame alone. -/
theorem next?_frame {s t : ValueState} (h : s.frame = t.frame) (f g : List Char → List Char)
    (c : Char) : (s.next? f c).map frame = (t.next? g c).map frame := by
  obtain ⟨hmode, hweak⟩ := Prod.mk.inj h
  unfold next?
  rw [← hmode, ← hweak]
  cases s.mode <;> simp only [push, apply_ite frame, apply_ite (Option.map frame), Option.map_some,
    Option.map_none, frame_mk, h, ← hweak]

/-- Two states with one frame both refuse a character, or go on to states with one frame. -/
theorem next?_cases {s t : ValueState} (h : s.frame = t.frame) (f g : List Char → List Char)
    (c : Char) :
    (s.next? f c = none ∧ t.next? g c = none) ∨
      ∃ u v, s.next? f c = some u ∧ t.next? g c = some v ∧ u.frame = v.frame := by
  have hnext := next?_frame h f g c
  cases hs : s.next? f c with
  | none =>
      rw [hs] at hnext
      exact .inl ⟨rfl, Option.map_eq_none_iff.mp hnext.symm⟩
  | some u =>
      rw [hs] at hnext
      obtain ⟨v, hv, hframe⟩ := Option.map_eq_some_iff.mp hnext.symm
      exact .inr ⟨u, v, rfl, hv, hframe.symm⟩

theorem finish?_frame {s t : ValueState} (h : s.frame = t.frame) (f g : List Char → List Char) :
    (s.finish? f).isSome = (t.finish? g).isSome := by
  obtain ⟨hmode, hweak⟩ := Prod.mk.inj h
  unfold finish?
  rw [← hmode, ← hweak]
  split
  · rfl
  · cases s.mode <;> rfl

theorem namesFrom_frame (cs : List Char) {s t : ValueState} (h : s.frame = t.frame) :
    s.namesFrom cs = t.namesFrom cs := by
  induction cs generalizing s t with
  | nil =>
      obtain ⟨hmode, hweak⟩ := Prod.mk.inj h
      rw [namesFrom, namesFrom, lastName?, lastName?, hmode, hweak]
  | cons c rest ih =>
      obtain ⟨hmode, -⟩ := Prod.mk.inj h
      have hended : s.endedName? c = t.endedName? c := by rw [endedName?, endedName?, hmode]
      rw [namesFrom, namesFrom, hended]
      rcases next?_cases h (fun _ => []) (fun _ => []) c with
        ⟨hs, ht⟩ | ⟨u, v, hs, ht, hframe⟩
      · rw [hs, ht]
      · rw [hs, ht]
        simp only [ih hframe]

end ValueState

open ValueState

/-- Why something is refused, if it is. -/
def refusal? {α : Type} : Except Error α → Option Error
  | .error e => some e
  | .ok _ => none

theorem isOk_eq_isNone {α : Type} (x : Except Error α) : x.isOk = (refusal? x).isNone := by
  cases x <;> rfl

theorem refusal?_map {α β : Type} (f : α → β) (x : Except Error α) :
    refusal? (x.map f) = refusal? x := by
  cases x <;> rfl

/-- What follows a result has to agree on that result only. -/
theorem bind_congr_ok {α β : Type} {x : Except Error α} {f g : α → Except Error β}
    (h : ∀ a, x = .ok a → f a = g a) : x >>= f = x >>= g := by
  cases x with
  | error e => rfl
  | ok a => exact h a rfl

/-- One character of a value, with its index. -/
def readStep (lookup : List Char → List Char) (text : List Char) (s : ValueState)
    (c : Char × Nat) : Except Error ValueState :=
  match s.next? lookup c.1 with
  | some t => .ok t
  | none => .error (.broken text c.2)

/-- What is read of a value from a state and an index on. -/
def readFrom (lookup : List Char → List Char) (text : List Char) (s : ValueState) (i : Nat)
    (cs : List Char) : Except Error (List Char) :=
  (cs.zipIdx i).foldlM (readStep lookup text) s >>= fun t =>
    match t.finish? lookup with
    | some value => .ok value
    | none => .error (.broken text (Text.utf8Length text - 1))

theorem readValue_eq (lookup : List Char → List Char) (text : List Char) :
    readValue lookup text = readFrom lookup text {} 0 text := rfl

theorem readFrom_nil (lookup : List Char → List Char) (text : List Char) (s : ValueState) (i : Nat) :
    readFrom lookup text s i [] =
      match s.finish? lookup with
      | some value => .ok value
      | none => .error (.broken text (Text.utf8Length text - 1)) := rfl

theorem readFrom_cons (lookup : List Char → List Char) (text : List Char) (s : ValueState) (i : Nat)
    (c : Char) (rest : List Char) :
    readFrom lookup text s i (c :: rest) =
      match s.next? lookup c with
      | some t => readFrom lookup text t (i + 1) rest
      | none => .error (.broken text i) := by
  rw [readFrom, List.zipIdx_cons, List.foldlM_cons, readStep]
  cases s.next? lookup c <;> rfl

/-- **One value.** It depends on what its names stand for. -/
theorem readFrom_congr {f g : List Char → List Char} (text cs : List Char) (s : ValueState)
    (i : Nat) (h : ∀ name ∈ s.namesFrom cs, f name = g name) :
    readFrom f text s i cs = readFrom g text s i cs := by
  induction cs generalizing s i with
  | nil =>
      have hfinish : s.finish? f = s.finish? g :=
        finish?_congr fun name hname => h name (Option.mem_toList.mpr hname)
      rw [readFrom_nil, readFrom_nil, hfinish]
  | cons c rest ih =>
      have hnext : s.next? f c = s.next? g c :=
        next?_congr fun name hname =>
          h name (List.mem_append_left _ (Option.mem_toList.mpr hname))
      rw [readFrom_cons, readFrom_cons, ← hnext]
      cases hs : s.next? f c with
      | none => rfl
      | some t =>
          refine ih t (i + 1) fun name hname => h name (List.mem_append_right _ ?_)
          -- The names to come are those of a state that differs from this one in its output.
          rcases next?_cases rfl f (fun _ => []) c with ⟨hnone, -⟩ | ⟨u, v, hu, hv, hframe⟩
          · rw [hs] at hnone
            cases hnone
          · rw [hs] at hu
            cases hu
            rw [hv]
            rwa [namesFrom_frame rest hframe] at hname

/-- Why a value is refused does not depend on what its names stand for. -/
theorem readFrom_refusal? (f g : List Char → List Char) (text cs : List Char) {s t : ValueState}
    (h : s.frame = t.frame) (i : Nat) :
    refusal? (readFrom f text s i cs) = refusal? (readFrom g text t i cs) := by
  induction cs generalizing s t i with
  | nil =>
      have hfinish := finish?_frame h f g
      rw [readFrom_nil, readFrom_nil]
      cases hs : s.finish? f <;> cases ht : t.finish? g <;> simp_all [refusal?]
  | cons c rest ih =>
      rw [readFrom_cons, readFrom_cons]
      rcases next?_cases h f g c with ⟨hs, ht⟩ | ⟨u, v, hs, ht, hframe⟩
      · rw [hs, ht]
      · rw [hs, ht]
        exact ih hframe (i + 1)

/-! ### One file -/

/-- The names that the value of a line asks for. -/
def lineNames (line : List Char) : List (List Char) :=
  match splitLine line with
  | .ok (some (_, c)) => if c.atEnd then [] else ({} : ValueState).namesFrom c.rest
  | _ => []

/-- The names that lines ask for, up to the first that is refused. -/
def namesOfLines : List (Except Error (List Char)) → List (List Char)
  | .ok line :: rest =>
    lineNames line ++ if (addLine .empty [] line).isOk then namesOfLines rest else []
  | _ => []

/-- The names that a file asks for. -/
def names (bytes : List Nat) : List (List Char) :=
  namesOfLines (joinLines [] .plain (cutLines bytes))

/-- What is read of the value behind an equals sign. -/
def valueAt (lookup : List Char → List Char) (c : Cursor) : Except Error (List Char) :=
  if c.atEnd then .ok [] else readFrom lookup c.rest {} 0 c.rest

theorem addLine_eq (env : Environment) (pairs : List (String × String)) (line : List Char) :
    addLine env pairs line = match splitLine line with
      | .error e => .error e
      | .ok none => .ok pairs
      | .ok (some (key, c)) => (valueAt (substitute env pairs) c).map fun value =>
          pairs ++ [(String.ofList key, String.ofList value)] := by
  unfold addLine
  cases splitLine line with
  | error e => rfl
  | ok found =>
      cases found with
      | none => rfl
      | some entry =>
          obtain ⟨key, c⟩ := entry
          show (if c.atEnd then _ else readValue (substitute env pairs) c.rest >>= _) =
            (valueAt (substitute env pairs) c).map _
          unfold valueAt
          by_cases hend : c.atEnd
          · rw [if_pos hend, if_pos hend]
            rfl
          · rw [if_neg hend, if_neg hend, readValue_eq]
            cases readFrom (substitute env pairs) c.rest {} 0 c.rest <;> rfl

variable {env env' : Environment}

theorem addLine_congr (pairs : List (String × String)) {line : List Char}
    (h : ∀ name ∈ lineNames line, env (String.ofList name) = env' (String.ofList name)) :
    addLine env pairs line = addLine env' pairs line := by
  rw [addLine_eq, addLine_eq]
  unfold lineNames at h
  match splitLine line, h with
  | .error e, _ => rfl
  | .ok none, _ => rfl
  | .ok (some (key, c)), h =>
      have hvalue : valueAt (substitute env pairs) c = valueAt (substitute env' pairs) c := by
        unfold valueAt
        by_cases hend : c.atEnd
        · rw [if_pos hend, if_pos hend]
        · simp only [if_neg hend] at h ⊢
          exact readFrom_congr c.rest c.rest {} 0 fun name hname => by
            rw [substitute, substitute, h name hname]
      simp only [hvalue]

theorem valueAt_refusal? (f g : List Char → List Char) (c : Cursor) :
    refusal? (valueAt f c) = refusal? (valueAt g c) := by
  unfold valueAt
  split
  · rfl
  · exact readFrom_refusal? f g c.rest c.rest rfl 0

/-- Whether a line is refused depends neither on the environment nor on the lines before it. -/
theorem addLine_isOk (env env' : Environment) (pairs pairs' : List (String × String))
    (line : List Char) : (addLine env pairs line).isOk = (addLine env' pairs' line).isOk := by
  rw [addLine_eq, addLine_eq]
  match splitLine line with
  | .error e => rfl
  | .ok none => rfl
  | .ok (some (key, c)) =>
      have hvalue := valueAt_refusal? (substitute env pairs) (substitute env' pairs') c
      simp only [isOk_eq_isNone, refusal?_map, hvalue]

/-- What the lines of a file add to earlier keys. -/
def addLines (env : Environment) (pairs : List (String × String))
    (lines : List (Except Error (List Char))) : Except Error (List (String × String)) :=
  lines.foldlM (fun pairs line => do addLine env pairs (← line)) pairs

theorem addLines_nil (env : Environment) (pairs : List (String × String)) :
    addLines env pairs [] = .ok pairs := rfl

theorem addLines_error (env : Environment) (pairs : List (String × String)) (e : Error)
    (rest : List (Except Error (List Char))) :
    addLines env pairs (.error e :: rest) = .error e := rfl

theorem addLines_ok (env : Environment) (pairs : List (String × String)) (line : List Char)
    (rest : List (Except Error (List Char))) :
    addLines env pairs (.ok line :: rest) =
      addLine env pairs line >>= fun added => addLines env added rest := rfl

theorem addLines_congr (lines : List (Except Error (List Char))) (pairs : List (String × String))
    (h : ∀ name ∈ namesOfLines lines, env (String.ofList name) = env' (String.ofList name)) :
    addLines env pairs lines = addLines env' pairs lines := by
  induction lines generalizing pairs with
  | nil => rw [addLines_nil, addLines_nil]
  | cons first rest ih =>
      cases first with
      | error e => rw [addLines_error, addLines_error]
      | ok line =>
          have hline : addLine env pairs line = addLine env' pairs line :=
            addLine_congr pairs fun name hname => h name (List.mem_append_left _ hname)
          rw [addLines_ok, addLines_ok, ← hline]
          refine bind_congr_ok fun added hadded => ih added fun name hname => ?_
          -- The line is not refused, so the names of the lines behind it count.
          have hok : (addLine .empty [] line).isOk := by
            rw [addLine_isOk .empty env [] pairs line, hadded]
            rfl
          refine h name (List.mem_append_right _ ?_)
          rwa [if_pos hok]

/-- **One file.** It depends on the variables that it asks for. -/
theorem parse_congr {bytes : List Nat}
    (h : ∀ name ∈ names bytes, env (String.ofList name) = env' (String.ofList name)) :
    parse env bytes = parse env' bytes :=
  addLines_congr _ [] h

end EnvFile

/-! ### All profiles -/

namespace Profiles

/-- A profile file of a directory substitutes a variable. -/
def Substitutes (disk : Disk) (dir : Path) (name : String) : Prop :=
  ∃ entry ∈ deviceFiles, ∃ bytes, disk.read (dir.join entry.2) = .ok bytes ∧
    name.toList ∈ EnvFile.names bytes

variable {disk : Disk} {dir : Path} {env env' : Environment}

theorem loadDevice_congr (h : ∀ name, Substitutes disk dir name → env name = env' name)
    (p : Profiles) {entry : String × String} (hentry : entry ∈ deviceFiles) :
    loadDevice disk env dir p entry = loadDevice disk env' dir p entry := by
  obtain ⟨device, file⟩ := entry
  have hread : readTuning disk env (dir.join file) = readTuning disk env' (dir.join file) := by
    unfold readTuning
    cases hbytes : disk.read (dir.join file) with
    | error cause => rfl
    | ok bytes =>
        have hparse : EnvFile.parse env bytes = EnvFile.parse env' bytes := by
          refine EnvFile.parse_congr fun name hname => h _ ⟨_, hentry, bytes, hbytes, ?_⟩
          rwa [String.toList_ofList]
        simp only [hparse]
  simp only [loadDevice, hread]

/-- **All profiles.** They depend on the variables that some profile file substitutes. -/
theorem load_congr (h : ∀ name, Substitutes disk dir name → env name = env' name) :
    load disk env dir = load disk env' dir := by
  unfold load
  refine List.foldl_ext _ _ _ fun acc entry hentry => ?_
  rw [loadDevice_congr h acc.1 hentry]

end Profiles
end CameraGraph
