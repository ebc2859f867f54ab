import CameraGraph.Proofs.BranchShape
import CameraGraph.Proofs.Rounds

/-!
# CameraGraph.Proofs.CommandWords

Both layouts of a command hold the same words.

Words are what is left of a command when its lines are joined, each break of a blank, a backslash and
a newline giving a blank, and the text is then split at blanks. The texts of elements and the names
of junctions are arbitrary, so a word need not stay one, and a text may hold a break or complete one
with the blank in front of it. All that matters is that a break starts with a blank and has no other:
a text can be cut in front of any blank without cutting a break (`Text.joinLines_append`). Every text
that the layouts put together stands between blanks in both of them, so in both it has the same words,
those of the text behind a blank (`Text.innerWords`).
-/

namespace CameraGraph

/-! ### Words of a text -/

namespace Text

/-- A text with its lines joined: a blank takes the place of a blank, a backslash and a newline. -/
def joinLines : List Char → List Char
  | ' ' :: '\\' :: '\n' :: rest => ' ' :: joinLines rest
  | c :: rest => c :: joinLines rest
  | [] => []

/-- What stands between blanks. -/
def words (cs : List Char) : List (List Char) := (cs.splitOnP isBlank).filter (· ≠ [])

/-- The words of a text that is read as a command. -/
def commandWords (cs : List Char) : List (List Char) := words (joinLines cs)

/-- The words that a text has behind a blank. -/
def innerWords (cs : List Char) : List (List Char) := commandWords (' ' :: cs)

theorem words_append (a b : List Char) : words (a ++ ' ' :: b) = words a ++ words b := by
  rw [words, List.splitOnP_append_cons a b (by decide), List.filter_append]
  rfl

theorem words_cons (b : List Char) : words (' ' :: b) = words b := words_append [] b

/-- **Cutting.** No break starts in front of a blank and ends behind it. -/
theorem joinLines_append (a b : List Char) :
    joinLines (a ++ ' ' :: b) = joinLines a ++ joinLines (' ' :: b) := by
  fun_induction joinLines a with
  | case1 rest ih => simp [joinLines, ih]
  | case2 c rest hbreak ih =>
      -- Behind `c` there are fewer than two characters of a break, and a blank is neither of them.
      have hnone : ∀ r, c = ' ' → rest ++ ' ' :: b = '\\' :: '\n' :: r → False := by
        rintro r rfl h
        rcases rest with _ | ⟨d, _ | ⟨e, rest⟩⟩ <;> simp_all
      rw [List.cons_append, joinLines, ih, List.cons_append]
      exact hnone
  | case3 => rfl

/-- A text that starts with a blank still does when its lines are joined. -/
theorem joinLines_blank (b : List Char) : ∃ r, joinLines (' ' :: b) = ' ' :: r := by
  unfold joinLines
  split
  case h_1 => exact ⟨_, rfl⟩
  case h_2 h =>
    obtain ⟨rfl, rfl⟩ := List.cons.inj h
    exact ⟨_, rfl⟩
  case h_3 h => exact absurd h (List.cons_ne_nil _ _)

theorem commandWords_append (a b : List Char) :
    commandWords (a ++ ' ' :: b) = commandWords a ++ innerWords b := by
  obtain ⟨r, hr⟩ := joinLines_blank b
  rw [innerWords, commandWords, commandWords, commandWords, joinLines_append, hr, words_append,
    words_cons]

theorem innerWords_append (a b : List Char) :
    innerWords (a ++ ' ' :: b) = innerWords a ++ innerWords b :=
  commandWords_append (' ' :: a) b

@[simp] theorem commandWords_blank (b : List Char) : commandWords (' ' :: b) = innerWords b := rfl

@[simp] theorem innerWords_blank (b : List Char) : innerWords (' ' :: b) = innerWords b :=
  innerWords_append [] b

/-- Behind a break stands what would stand behind a blank. -/
theorem innerWords_break (b : List Char) :
    innerWords ('\\' :: '\n' :: ' ' :: b) = innerWords b := by
  rw [innerWords, innerWords, commandWords, joinLines, words_cons]
  rfl

theorem innerWords_link (b : List Char) : innerWords ('!' :: ' ' :: b) = ['!'] :: innerWords b :=
  innerWords_append ['!'] b

end Text

namespace Graph

open Text

/-! ### Words of a layout -/

/-- The words of linked elements, the first of which is written as `first`. -/
def linkedWords (first : List Char) (rest : List Element) : List (List Char) :=
  innerWords first ++ rest.flatMap fun e => ['!'] :: innerWords e.text.toList

/-- The words of elements that stand behind `start`. -/
def segmentWords (start : String) : List Element → List (List Char)
  | [] => []
  | e :: rest => linkedWords (start.toList ++ e.text.toList) rest

/-- The words of a branch. -/
def branchWords (b : CompiledBranch) : List (List Char) :=
  segmentWords "" b.chain ++ b.junction.legs.flatMap (segmentWords (legStart b.junction))

theorem toList_linked_cons (e : Element) (rest : List Element) :
    (linked (e :: rest)).toList =
      e.text.toList ++ rest.flatMap fun f => ' ' :: '!' :: ' ' :: f.text.toList := by
  induction rest generalizing e with
  | nil => simp [linked]
  | cons f rest ih =>
      have hcons : linked (e :: f :: rest) = e.text ++ " ! " ++ linked (f :: rest) :=
        String.intercalate_cons_cons
      rw [hcons, String.toList_append, ih, String.toList_append]
      simp

theorem innerWords_linked (first : List Char) (rest : List Element) :
    innerWords (first ++ rest.flatMap fun f => ' ' :: '!' :: ' ' :: f.text.toList) =
      linkedWords first rest := by
  induction rest generalizing first with
  | nil => simp [linkedWords]
  | cons f rest ih =>
      have hnext := ih f.text.toList
      simp only [linkedWords, List.flatMap_cons, List.cons_append] at hnext ⊢
      rw [innerWords_append, innerWords_link, hnext]

/-! ### One line for each branch -/

/-- A leg that is not empty has the words of its elements. -/
theorem innerWords_leg (start : String) {leg : List Element} (h : leg ≠ []) :
    innerWords (start ++ linked leg).toList = segmentWords start leg := by
  cases leg with
  | nil => exact absurd rfl h
  | cons e rest =>
      rw [String.toList_append, toList_linked_cons, ← List.append_assoc, innerWords_linked]
      rfl

theorem innerWords_chain (chain : List Element) :
    innerWords (linked chain).toList = segmentWords "" chain := by
  cases chain with
  | nil => rfl
  | cons e rest => rw [← innerWords_leg "" (List.cons_ne_nil e rest), String.empty_append]

theorem commandWords_compactLine {b : CompiledBranch} (h : ∀ leg ∈ b.junction.legs, leg ≠ []) :
    commandWords (compactLine b).toList = branchWords b := by
  -- Every leg stands behind a blank, where the text may be cut.
  have hlegs (legs : List (List Element)) (hne : ∀ leg ∈ legs, leg ≠ []) (front : List Char) :
      innerWords (front ++ legs.flatMap fun leg =>
          (" " ++ legStart b.junction ++ linked leg).toList) =
        innerWords front ++ legs.flatMap (segmentWords (legStart b.junction)) := by
    induction legs generalizing front with
    | nil => simp
    | cons leg rest ih =>
        obtain ⟨hleg, hrest⟩ := List.forall_mem_cons.mp hne
        have hblank : (" " ++ legStart b.junction ++ linked leg).toList =
            ' ' :: (legStart b.junction ++ linked leg).toList := by simp
        rw [List.flatMap_cons, List.flatMap_cons, hblank, List.cons_append, innerWords_append,
          ih hrest, innerWords_leg _ hleg]
  have hline : (compactLine b).toList = ' ' :: ' ' :: ((linked b.chain).toList ++
      b.junction.legs.flatMap fun leg => (" " ++ legStart b.junction ++ linked leg).toList) := by
    simp [compactLine, String.toList_join, List.flatMap_map]
  rw [hline, commandWords_blank, innerWords_blank, hlegs _ h, innerWords_chain]
  rfl

/-! ### One line for each element -/

/-- The words of lines, each read on its own. -/
def lineWords (lines : List String) : List (List Char) :=
  lines.flatMap fun l => commandWords l.toList

/-- An element on a line of its own, with the link behind it. -/
theorem commandWords_linkLine (text : List Char) :
    commandWords (' ' :: ' ' :: (text ++ [' ', '!'])) = innerWords text ++ [['!']] := by
  rw [commandWords_blank, innerWords_blank, innerWords_append]
  rfl

theorem lineWords_followingLines (e : Element) (rest : List Element) :
    lineWords (followingLines (e :: rest)) = linkedWords e.text.toList rest := by
  induction rest generalizing e with
  | nil => simp [followingLines, lineWords, linkedWords]
  | cons f rest ih =>
      have hline : commandWords ("    " ++ e.text ++ " !").toList =
          innerWords e.text.toList ++ [['!']] := by
        simpa using commandWords_linkLine (' ' :: ' ' :: e.text.toList)
      have hnext := ih f
      simp only [lineWords, followingLines, List.flatMap_cons] at hnext ⊢
      rw [hline, hnext]
      simp [linkedWords]

theorem lineWords_segmentLines (start : String) (es : List Element) :
    lineWords (segmentLines start es) = segmentWords start es := by
  match es with
  | [] => rfl
  | [e] => simp [segmentLines, lineWords, segmentWords, linkedWords]
  | e :: f :: rest =>
      have hline : commandWords ("  " ++ start ++ e.text ++ " !").toList =
          innerWords (start.toList ++ e.text.toList) ++ [['!']] := by
        simpa using commandWords_linkLine (start.toList ++ e.text.toList)
      have hnext := lineWords_followingLines f rest
      simp only [lineWords, segmentLines, List.flatMap_cons] at hnext ⊢
      rw [hline, hnext]
      simp [segmentWords, linkedWords]

theorem lineWords_elementLines (b : CompiledBranch) :
    lineWords (elementLines b) = branchWords b := by
  have hsegments := lineWords_segmentLines
  simp only [lineWords] at hsegments ⊢
  simp only [elementLines, List.flatMap_append, List.flatMap_assoc, hsegments]
  rfl

/-! ### Commands -/

/-- All lines but the first are indented, so that every break is followed by a blank. -/
def Indented (l : String) : Prop := l.toList.head? = some ' '

theorem indented_followingLines (es : List Element) : ∀ l ∈ followingLines es, Indented l := by
  fun_induction followingLines es with
  | case1 => simp
  | case2 e => simp [Indented]
  | case3 e rest _ ih => exact List.forall_mem_cons.mpr ⟨by simp [Indented], ih⟩

theorem indented_segmentLines (start : String) (es : List Element) :
    ∀ l ∈ segmentLines start es, Indented l := by
  fun_cases segmentLines start es with
  | case1 => simp
  | case2 e => simp [Indented]
  | case3 e rest =>
      exact List.forall_mem_cons.mpr ⟨by simp [Indented], indented_followingLines rest⟩

theorem indented_elementLines (b : CompiledBranch) : ∀ l ∈ elementLines b, Indented l := by
  intro l hl
  rcases List.mem_append.mp hl with hl | hl
  · exact indented_segmentLines _ _ l hl
  · obtain ⟨leg, -, hl⟩ := List.mem_flatMap.mp hl
    exact indented_segmentLines _ leg l hl

theorem indented_compactLine (b : CompiledBranch) : Indented (compactLine b) := by
  simp [Indented, compactLine]

theorem Indented.intercalate {l : String} (h : Indented l) (separator : String)
    (rest : List String) : Indented (separator.intercalate (l :: rest)) := by
  unfold Indented at h ⊢
  cases rest with
  | nil => rwa [String.intercalate_singleton]
  | cons m rest =>
      rw [String.intercalate_cons_cons, String.append_assoc, String.toList_append, List.head?_append,
        h]
      rfl

/-- **Lines.** A command has the words of its lines. -/
theorem commandWords_intercalate (first : String) (rest : List String)
    (h : ∀ l ∈ rest, Indented l) :
    commandWords (" \\\n".intercalate (first :: rest)).toList =
      commandWords first.toList ++ lineWords rest := by
  induction rest generalizing first with
  | nil => simp [lineWords]
  | cons l rest ih =>
      obtain ⟨hl, hrest⟩ := List.forall_mem_cons.mp h
      -- The break and the indent behind it are all there is between two lines.
      obtain ⟨cs, hcs⟩ := List.head?_eq_some_iff.mp (hl.intercalate " \\\n" rest)
      have hbreak : (" \\\n".intercalate (first :: l :: rest)).toList =
          first.toList ++ ' ' :: '\\' :: '\n' :: ' ' :: cs := by
        rw [String.intercalate_cons_cons, String.toList_append, hcs]
        simp
      rw [hbreak, commandWords_append, innerWords_break, ← commandWords_blank, ← hcs, ih l hrest]
      rfl

theorem commandWords_command_multiline (g : Graph) :
    commandWords (g.command .multiline).toList =
      commandWords g.header.toList ++ g.branches.flatMap branchWords := by
  have hindented : ∀ l ∈ g.branches.flatMap elementLines, Indented l := by
    intro l hl
    obtain ⟨b, -, hl⟩ := List.mem_flatMap.mp hl
    exact indented_elementLines b l hl
  have hwords := lineWords_elementLines
  rw [command, lines, commandWords_intercalate _ _ hindented]
  simp only [lineWords] at hwords ⊢
  simp only [List.flatMap_assoc, hwords]

/-- Graphs none of whose legs is empty. -/
def FullLegs (g : Graph) : Prop := ∀ b ∈ g.branches, ∀ leg ∈ b.junction.legs, leg ≠ []

theorem commandWords_command_compact {g : Graph} (h : g.FullLegs) :
    commandWords (g.command .compact).toList =
      commandWords g.header.toList ++ g.branches.flatMap branchWords := by
  have hindented : ∀ l ∈ g.branches.map compactLine, Indented l := by
    intro l hl
    obtain ⟨b, -, rfl⟩ := List.mem_map.mp hl
    exact indented_compactLine b
  rw [command, lines, commandWords_intercalate _ _ hindented, lineWords, List.flatMap_map]
  exact congrArg _ (List.flatMap_congr fun b hb => commandWords_compactLine (h b hb))

/-- **Layouts.** A graph without empty legs, whatever its texts hold, has the same words in both
layouts, and the graphs of all runs are without empty legs. -/
theorem layouts_same_words :
    (∀ g : Graph, g.FullLegs →
      commandWords (g.command .compact).toList = commandWords (g.command .multiline).toList) ∧
    ∀ (x : Compiler) (inputs : Inputs) (count : Nat), (compile x inputs count).1.FullLegs := by
  refine ⟨?_, ?_⟩
  · intro g h
    rw [commandWords_command_compact h, commandWords_command_multiline]
  · intro x inputs count c hc
    obtain ⟨b, -, last, rfl⟩ := mem_compile_branches hc
    exact x.compile_legs_ne_nil b last

/-- Texts that end in a break, complete one, or hold a link; and a junction whose name is blank. -/
theorem layouts_same_words_breaks :
    let g : Graph :=
      { gstDebug := "a \\\n", gstTracers := "b\\",
        branches := [⟨[⟨"x \\\n", [], []⟩, ⟨"\\\ny ! z", [], []⟩],
          ⟨" ", [[⟨"\\\n", [], []⟩], [⟨"", [], []⟩, ⟨"q \\", [], []⟩]]⟩⟩] }
    g.FullLegs ∧
      commandWords (g.command .compact).toList = commandWords (g.command .multiline).toList := by
  intro g
  have hfull : g.FullLegs := by simp [g, FullLegs]
  exact ⟨hfull, layouts_same_words.1 g hfull⟩

end Graph
end CameraGraph
