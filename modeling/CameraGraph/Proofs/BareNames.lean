import CameraGraph.Proofs.ChainParts
import CameraGraph.Proofs.CommandWords
import CameraGraph.Proofs.ElementReading
import CameraGraph.Proofs.NumberedText
import CameraGraph.Proofs.RedundantRequests
import Mathlib.Data.List.Flatten

/-!
# CameraGraph.Proofs.BareNames

Every name is one bare token.

Names are put together from whatever the documents hold: ids, addresses, names of files and of
workloads. Some are made bare before their number is added, others with it, and some are only numbers
behind a fixed word. `IsToken` is what they all come to. It is the form that `ElementName.sanitize`
leaves alone, and it is kept by everything that a name gets behind it (`IsToken.append`), so it does
not matter when the number is added.

In a command a token stands as it is. Only the addresses of streams are inside quotes whatever they
are (`Compiler.compile_quotedKeys`), and a token has nothing that quotes are there for; so each name is
a word of the command behind its key, and so is each reference to a junction. Fragments and factories
are not looked at: they are texts of a profile or a document, kept as they are.
-/

namespace CameraGraph

/-! ### Tokens -/

/-- The characters of a token. -/
def IsNameChar (c : Char) : Prop :=
  ('A' ≤ c ∧ c ≤ 'Z') ∨ ('a' ≤ c ∧ c ≤ 'z') ∨ ('0' ≤ c ∧ c ≤ '9') ∨ c = '_' ∨ c = '-'

/-- A bare token. -/
structure IsToken (s : String) : Prop where
  /-- There is something in it, -/
  nonempty : s ≠ ""
  /-- of the alphabet, -/
  chars : ∀ c ∈ s.toList, IsNameChar c
  /-- with no digit in front. -/
  start : ∀ c, s.toList.head? = some c → ¬('0' ≤ c ∧ c ≤ '9')

theorem allowed_iff {c : Char} : ElementName.allowed c = true ↔ IsNameChar c := by
  unfold ElementName.allowed Char.isAlphanum Char.isAlpha Char.isUpper Char.isLower Char.isDigit
  simp [IsNameChar, Char.le_def, or_assoc]

theorem isDigit_iff {c : Char} : c.isDigit = true ↔ '0' ≤ c ∧ c ≤ '9' := by
  simp [Char.isDigit, Char.le_def]

theorem isToken_iff {s : String} : IsToken s ↔
    ∃ c rest, s.toList = c :: rest ∧ c.isDigit = false ∧
      (c :: rest).all ElementName.allowed = true := by
  simp only [List.all_eq_true, allowed_iff, ← Bool.not_eq_true, isDigit_iff]
  constructor
  · rintro ⟨hne, hchars, hstart⟩
    cases hs : s.toList with
    | nil => exact absurd (String.toList_eq_nil_iff.mp hs) hne
    | cons c rest => exact ⟨c, rest, rfl, hstart c (by rw [hs]; rfl), hs ▸ hchars⟩
  · rintro ⟨c, rest, hs, hstart, hchars⟩
    refine ⟨?_, hs ▸ hchars, ?_⟩
    · rintro rfl
      cases hs
    · rw [hs]
      rintro d ⟨⟩
      exact hstart

namespace ElementName

theorem toList_sanitize (raw : String) : (sanitize raw).toList = sanitizeChars raw.toList := by
  rw [sanitize, String.toList_ofList]

/-- Whatever it is made of, a name is a token. -/
theorem sanitize_isToken (raw : String) : IsToken (sanitize raw) := by
  have hclean : (raw.toList.map fun c => if allowed c then c else '_').all allowed = true := by
    rw [List.all_eq_true]
    intro d hd
    obtain ⟨c, -, rfl⟩ := List.mem_map.mp hd
    split
    · assumption
    · decide
  rw [isToken_iff, toList_sanitize]
  unfold sanitizeChars
  split
  case h_1 => exact ⟨'s', "tream".toList, rfl, by decide, by decide⟩
  case h_2 c rest h =>
    rw [h] at hclean
    split
    · have hall : ("cam_".toList ++ c :: rest).all allowed = true := by
        rw [List.all_append, hclean]
        decide
      exact ⟨'c', _, rfl, by decide, hall⟩
    · next hdigit => exact ⟨c, rest, rfl, by simpa using hdigit, hclean⟩

/-- A token is left alone. -/
theorem sanitize_eq_self {s : String} (h : IsToken s) : sanitize s = s := by
  obtain ⟨c, rest, hs, hstart, hall⟩ := isToken_iff.mp h
  have hmap : (c :: rest).map (fun c => if allowed c then c else '_') = c :: rest :=
    (List.map_congr_left fun d hd => if_pos (List.all_eq_true.mp hall d hd)).trans (List.map_id _)
  rw [← String.toList_inj, toList_sanitize, hs, sanitizeChars, hmap]
  simp [hstart]

theorem sanitize_eq_self_iff (raw : String) : sanitize raw = raw ↔ IsToken raw :=
  ⟨fun h => h ▸ sanitize_isToken raw, sanitize_eq_self⟩

/-- To ask whether a text is a token is to see whether it is left alone. -/
instance (s : String) : Decidable (IsToken s) := decidable_of_iff _ (sanitize_eq_self_iff s)

/-- Digits of other scripts are no digits here. -/
example : sanitize "٣ a" = "__a" ∧ sanitize "3 a" = "cam_3_a" := by decide +kernel

end ElementName

/-! ### Tokens with something behind them -/

/-- A text may go behind a token. -/
def FollowsToken (s : String) : Prop := s.toList.all ElementName.allowed = true

theorem FollowsToken.append {s t : String} (hs : FollowsToken s) (ht : FollowsToken t) :
    FollowsToken (s ++ t) := by
  rw [FollowsToken] at hs ht ⊢
  rw [String.toList_append, List.all_append, hs, ht, Bool.and_self]

theorem followsToken_natText (n : Nat) : FollowsToken (natText n) := by
  rw [FollowsToken, toList_natText, List.all_eq_true]
  exact fun c hc => allowed_of_mem_natDigits hc

theorem followsToken_underscore : FollowsToken "_" := rfl

theorem followsToken_place (p : Place) : FollowsToken p.text :=
  ((followsToken_natText _).append followsToken_underscore).append (followsToken_natText _)

namespace IsToken

variable {s t : String}

theorem append (hs : IsToken s) (ht : FollowsToken t) : IsToken (s ++ t) := by
  obtain ⟨c, rest, heq, hstart, hall⟩ := isToken_iff.mp hs
  refine isToken_iff.mpr ⟨c, rest ++ t.toList, by rw [String.toList_append, heq]; rfl, hstart, ?_⟩
  rw [← List.cons_append, List.all_append, hall, ht, Bool.and_self]

theorem numbered (hs : IsToken s) (n : Nat) : IsToken (s ++ "_" ++ natText n) :=
  (hs.append followsToken_underscore).append (followsToken_natText n)

end IsToken

/-! ### The names of a branch -/

theorem isToken_detectorName (s : BoundStep) (n : Nat) : IsToken (s.detectorName n) :=
  ElementName.sanitize_isToken _

theorem isToken_stream : IsToken "stream" := by decide +kernel

theorem isToken_teeName (b : Branch) (n : Nat) : IsToken (b.teeName n) := by
  have hword : IsToken "t" := by decide +kernel
  exact (hword.append (followsToken_place _)).numbered n

theorem isToken_counterName (b : Branch) (n : Nat) : IsToken (b.counterName n) :=
  (isToken_stream.append (followsToken_place _)).numbered n

/-- A branch gives its elements tokens for names if its source has one. -/
theorem Compiler.isToken_of_mem_names (x : Compiler) {b : Branch} (hsource : IsToken b.source.name)
    {last : Nat} {name : String} (hname : name ∈ (x.compile b last).1.names) : IsToken name := by
  rw [x.compile_names] at hname
  rcases List.mem_append.mp hname with hname | hname
  · rcases List.mem_cons.mp hname with rfl | hname
    · exact hsource.numbered _
    · obtain ⟨i, hi, rfl⟩ := List.mem_mapIdx.mp hname
      exact isToken_detectorName _ _
  · rcases List.mem_pair.mp hname with rfl | rfl
    · exact isToken_teeName b _
    · exact isToken_counterName b _

/-! ### The names of sources -/

namespace Source

theorem isToken_streamName (camera : Camera) (uri : Option String) :
    IsToken (streamName camera uri) := by
  unfold streamName
  cases (camera.id.or (uri.bind nameOfUri)).or (camera.fileRef.bind Path.fileStem) with
  | none => exact isToken_stream
  | some raw => exact ElementName.sanitize_isToken raw

theorem ofCamera_name (camera : Camera) (endpoint : Endpoint) (layout : ModelLayout) :
    (ofCamera camera endpoint layout).1.name =
      streamName camera (streamUri camera endpoint).1 := by
  unfold ofCamera
  cases streamUri camera endpoint with
  | mk uri log => cases uri <;> rfl

end Source

/-- The sources of a run are named by tokens. -/
theorem Graph.isToken_sourceName {x : Compiler} {inputs : Inputs} {b : Branch}
    (hb : b ∈ roundBranches x inputs) : IsToken b.source.name := by
  obtain ⟨⟨camera, i⟩, -, hb⟩ := List.mem_flatMap.mp hb
  rw [cameraGrouping_branches] at hb
  obtain ⟨_, _, hopened⟩ := CameraSite.mem_group hb
  have hsource : b.source = (Source.ofCamera camera x.settings.endpoint x.layout).1 :=
    congrArg Branch.source hopened
  rw [hsource, Source.ofCamera_name]
  exact Source.isToken_streamName camera _

/-! ### Values that are always inside quotes -/

namespace Element

/-- The keys of the values that are always written inside quotes. -/
def quotedKeys (e : Element) : List String :=
  e.props.filterMap fun
    | (_, .plain _) => none
    | (key, .quoted _) => some key

@[simp] theorem quotedKeys_prop (e : Element) (k v : String) :
    (e.prop k v).quotedKeys = e.quotedKeys := by
  simp [quotedKeys, prop]

@[simp] theorem quotedKeys_quotedProp (e : Element) (k v : String) :
    (e.quotedProp k v).quotedKeys = e.quotedKeys ++ [k] := by
  simp [quotedKeys, quotedProp]

@[simp] theorem quotedKeys_optionalProp (e : Element) (o : Option String) (k : String) :
    (o.elim e (e.prop k)).quotedKeys = e.quotedKeys := by
  cases o <;> simp

@[simp] theorem quotedKeys_fragment (e : Element) (raw : String) :
    (e.fragment raw).quotedKeys = e.quotedKeys := by
  unfold fragment
  cases Text.nonBlank? raw <;> rfl

@[simp] theorem quotedKeys_element (factory : String) : (element factory).quotedKeys = [] := rfl

@[simp] theorem quotedKeys_queue : queue.quotedKeys = [] := rfl

@[simp] theorem quotedKeys_fakeSink : fakeSink.quotedKeys = [] := rfl

/-- Under any other key a value is bare wherever it can be. -/
theorem eq_plain_of_notMem {e : Element} {p : String × PropValue} (hp : p ∈ e.props)
    (h : p.1 ∉ e.quotedKeys) : p.2 = .plain p.2.value := by
  obtain ⟨key, value⟩ := p
  cases value with
  | plain s => rfl
  | quoted s =>
      have hkey : key ∈ e.quotedKeys := List.mem_filterMap.mpr ⟨_, hp, rfl⟩
      exact absurd hkey h

end Element

namespace Compiler

variable (x : Compiler) (p : Place)

theorem withModel_quotedKeys (e : Element) (step : Step) :
    (x.withModel e step).quotedKeys = e.quotedKeys := by
  simp [withModel]

theorem stage_quotedKeys (last : Nat) (s : BoundStep) :
    (x.stage p last s).1.flatMap Element.quotedKeys = [] := by
  unfold stage
  cases s.step.kind with
  | detect =>
      unfold allocate detector
      cases s.step.region <;> simp [withModel_quotedKeys]
  | classify => simp [classifier, withModel_quotedKeys]
  | inference => simp [withModel_quotedKeys]
  | transform => simp
  | utility u => simp
  | unknown name => simp

theorem addStages_quotedKeys (chain : List Element) (first : Bool) (last : Nat)
    (steps : List BoundStep) :
    (x.addStages p chain first last steps).1.flatMap Element.quotedKeys =
      chain.flatMap Element.quotedKeys := by
  induction steps generalizing chain first last with
  | nil => rfl
  | cons s rest ih =>
      simp only [addStages]
      rw [ih, List.flatMap_append, stage_quotedKeys, List.append_nil]
      split <;> simp

theorem attacher_quotedKeys (regions : List Region) : (attacher regions).quotedKeys = [] := by
  have hfold (e : Element) :
      (regions.foldl (fun e r => e.prop "roi" r.text) e).quotedKeys = e.quotedKeys := by
    induction regions generalizing e with
    | nil => rfl
    | cons r rest ih => rw [List.foldl_cons, ih, Element.quotedKeys_prop]
  exact hfold _

theorem attachRegions_quotedKeys (regions : List Region) :
    (attachRegions regions).flatMap Element.quotedKeys = [] := by
  by_cases h : regions = []
  · rw [h]
    rfl
  · simp [attachRegions_eq h, attacher_quotedKeys]

variable (b : Branch) (last : Nat)

/-- **Quotes.** Nothing but the address of a stream is always inside quotes. -/
theorem compile_quotedKeys :
    (x.compile b last).1.elements.flatMap Element.quotedKeys =
      match b.source with
      | .stream _ _ => ["location"]
      | .file _ _ => [] := by
  have hsource : (x.sourceElements last b.source).1.flatMap Element.quotedKeys =
      match b.source with
      | .stream _ _ => ["location"]
      | .file _ _ => [] := by
    cases b.source <;> simp [sourceElements, allocate]
  have hend : (branchEnd b (last + b.numbers)).flatMap Element.quotedKeys = [] := by
    unfold branchEnd
    split <;> simp
  have hlegs : (x.compile b last).1.junction.legs.flatten.flatMap Element.quotedKeys = [] := by
    rw [x.compile_junction]
    simp only [countingLeg, measuringLeg, showingLeg]
    cases hasTransform b.steps <;> cases x.settings.render <;> simp
  rw [CompiledBranch.elements, List.flatMap_append, hlegs, x.compile_chain, List.flatMap_append,
    hsource]
  simp [attachRegions_quotedKeys, addStages_quotedKeys, hend]

end Compiler

/-! ### Tokens as values -/

/-- No character of a token needs quotes around it. -/
theorem IsNameChar.needs_no_quotes {c : Char} (h : IsNameChar c) :
    Text.isBlank c = false ∧ c ≠ '"' := by
  unfold IsNameChar at h
  simp only [Char.le_def, UInt32.le_iff_toNat_le] at h
  change (65 ≤ c.toNat ∧ c.toNat ≤ 90) ∨ (97 ≤ c.toNat ∧ c.toNat ≤ 122) ∨
    (48 ≤ c.toNat ∧ c.toNat ≤ 57) ∨ c = '_' ∨ c = '-' at h
  have hrange : (48 ≤ c.toNat ∧ c.toNat ≤ 122) ∨ c = '_' ∨ c = '-' := by grind
  obtain ⟨hlow, hhigh⟩ | rfl | rfl := hrange
  · refine ⟨?_, ?_⟩
    · simp [Text.isBlank]
      omega
    · rintro rfl
      exact absurd hlow (by decide)
  · decide
  · decide

/-- A token that need not be inside quotes is written as it is. -/
theorem IsToken.text_plain {s : String} (h : IsToken s) : (PropValue.plain s).text = s := by
  have hbare : PropValue.isBare s = true := by
    simp only [PropValue.isBare, Bool.and_eq_true, List.all_eq_true]
    refine ⟨by simpa using h.nonempty, fun c hc => ?_⟩
    simpa using (h.chars c hc).needs_no_quotes
  rw [PropValue.text, if_pos hbare]

/-- Each name of the element is a token and written without quotes. -/
def Element.NamedBare (e : Element) : Prop :=
  ∀ p ∈ e.props, p.1 = "name" → IsToken p.2.value ∧ p.2.text = p.2.value

/-- A branch with bare names. -/
structure CompiledBranch.NamedBare (c : CompiledBranch) : Prop where
  /-- Its junction has one, -/
  junction : IsToken c.junction.name
  /-- and so has each of its elements that has a name. -/
  elements : ∀ e ∈ c.elements, e.NamedBare

theorem Compiler.compile_namedBare (x : Compiler) {b : Branch} (hsource : IsToken b.source.name)
    (last : Nat) : (x.compile b last).1.NamedBare where
  junction := by
    rw [compile_junction_name]
    exact isToken_teeName b _
  elements := by
    intro e he p hp hkey
    have hname : p.2.value ∈ (x.compile b last).1.names := by
      refine List.mem_flatMap.mpr ⟨e, he, List.mem_map.mpr ⟨p, ?_, rfl⟩⟩
      exact List.mem_filter.mpr ⟨hp, beq_iff_eq.mpr hkey⟩
    have hplain : p.2 = .plain p.2.value := by
      refine Element.eq_plain_of_notMem hp fun hquoted => ?_
      have hmem := List.mem_flatMap.mpr ⟨e, he, hquoted⟩
      rw [x.compile_quotedKeys, hkey] at hmem
      cases hb : b.source <;> simp [hb] at hmem
    have htoken := x.isToken_of_mem_names hsource hname
    exact ⟨htoken, (congrArg PropValue.text hplain).trans htoken.text_plain⟩

/-! ### Names as words -/

namespace Text

theorem joinLines_eq_self {w : List Char} (h : ' ' ∉ w) : joinLines w = w := by
  fun_induction joinLines w with
  | case1 rest ih => exact absurd List.mem_cons_self h
  | case2 c rest _ ih => rw [ih fun hrest => h (List.mem_cons_of_mem c hrest)]
  | case3 => rfl

/-- A text without blanks is one word. -/
theorem innerWords_word {w : List Char} (hne : w ≠ []) (h : ∀ c ∈ w, isBlank c = false) :
    innerWords w = [w] := by
  have hblank : ' ' ∉ w := fun hc => absurd (h ' ' hc) (by decide)
  have hjoin : joinLines (' ' :: w) = ' ' :: w := by
    rw [joinLines, joinLines_eq_self hblank]
    -- No break can start here: it has a line end, which is blank.
    rintro rest - rfl
    exact absurd (h '\n' (by simp)) (by decide)
  rw [innerWords, commandWords, hjoin, words_cons, words, List.splitOnP_eq_singleton h]
  simp [hne]

theorem innerWords_spaced (a : List Char) (ws : List String) :
    innerWords (a ++ ws.flatMap fun w => ' ' :: w.toList) =
      innerWords a ++ ws.flatMap fun w => innerWords w.toList := by
  induction ws generalizing a with
  | nil => simp
  | cons w rest ih =>
      rw [List.flatMap_cons, List.cons_append, innerWords_append, ih, List.flatMap_cons]

end Text

open Text

/-- A name with its key, as it stands in a command. -/
def nameWord (name : String) : List Char := ("name=" ++ name).toList

/-- A reference to a junction. -/
def Junction.referenceWord (j : Junction) : List Char := (j.name ++ ".").toList

/-- The names of a branch in the order of its command, with a reference to the junction in front of
each leg. -/
def CompiledBranch.namingWords (c : CompiledBranch) : List (List Char) :=
  (chainValues "name" c.chain).map nameWord ++
    c.junction.legs.flatMap fun leg =>
      c.junction.referenceWord :: (chainValues "name" leg).map nameWord

theorem innerWords_nameWord {name : String} (h : IsToken name) :
    innerWords (nameWord name) = [nameWord name] := by
  have hkey : ∀ c ∈ "name=".toList, isBlank c = false := by simp [isBlank]
  rw [nameWord, String.toList_append]
  refine innerWords_word (List.append_ne_nil_of_left_ne_nil (by decide) _) ?_
  exact List.forall_mem_append.mpr ⟨hkey, fun c hc => (h.chars c hc).needs_no_quotes.1⟩

theorem innerWords_referenceWord {j : Junction} (h : IsToken j.name) :
    innerWords j.referenceWord = [j.referenceWord] := by
  have hdot : ∀ c ∈ ".".toList, isBlank c = false := by simp [isBlank]
  rw [Junction.referenceWord, String.toList_append]
  refine innerWords_word (List.append_ne_nil_of_right_ne_nil _ (by decide)) ?_
  exact List.forall_mem_append.mpr ⟨fun c hc => (h.chars c hc).needs_no_quotes.1, hdot⟩

namespace Graph

/-- The names of an element are among its words. -/
theorem nameWords_sublist_text {e : Element} (h : e.NamedBare) :
    ((e.values "name").map nameWord).Sublist (innerWords e.text.toList) := by
  have hprops : ((e.values "name").map nameWord).Sublist
      (e.props.flatMap fun p => innerWords (p.1 ++ "=" ++ p.2.text).toList) := by
    have hnames : (e.values "name").map nameWord = (e.props.filter (·.1 == "name")).flatMap
        fun p => innerWords (p.1 ++ "=" ++ p.2.text).toList := by
      rw [Element.values, List.map_map, List.map_eq_flatMap]
      refine List.flatMap_congr fun p hp => ?_
      obtain ⟨hmem, hkey⟩ := List.mem_filter.mp hp
      obtain ⟨htoken, htext⟩ := h p hmem (beq_iff_eq.mp hkey)
      rw [beq_iff_eq.mp hkey, htext]
      exact (innerWords_nameWord htoken).symm
    rw [hnames]
    exact List.filter_sublist.flatMap _
  rw [Element.text, Element.words, List.cons_append, Element.toList_intercalate_blank,
    innerWords_spaced, List.flatMap_append, List.flatMap_map]
  exact (hprops.trans (List.sublist_append_left ..)).trans (List.sublist_append_right ..)

theorem nameWords_sublist_segment {es : List Element} (h : ∀ e ∈ es, e.NamedBare) :
    ((chainValues "name" es).map nameWord).Sublist (segmentWords "" es) := by
  cases es with
  | nil => exact List.Sublist.refl []
  | cons e rest =>
      obtain ⟨he, hrest⟩ := List.forall_mem_cons.mp h
      rw [chainValues_cons, List.map_append, chainValues, List.map_flatMap]
      -- A link stands in front of every other element.
      exact (nameWords_sublist_text he).append
        (List.Sublist.flatMap_right rest fun f hf => (nameWords_sublist_text (hrest f hf)).cons _)

/-- A leg starts with a reference to its junction. -/
theorem segmentWords_legStart {j : Junction} (h : IsToken j.name) {leg : List Element}
    (hne : leg ≠ []) :
    segmentWords (legStart j) leg = j.referenceWord :: ['!'] :: segmentWords "" leg := by
  obtain ⟨e, rest, rfl⟩ := List.exists_cons_of_ne_nil hne
  have hstart : (legStart j).toList ++ e.text.toList =
      j.referenceWord ++ ' ' :: '!' :: ' ' :: e.text.toList := by
    simp [legStart, Junction.referenceWord]
  rw [segmentWords, linkedWords, hstart, innerWords_append, innerWords_referenceWord h,
    innerWords_link]
  rfl

theorem namingWords_sublist {c : CompiledBranch} (h : c.NamedBare)
    (hlegs : ∀ leg ∈ c.junction.legs, leg ≠ []) : c.namingWords.Sublist (branchWords c) := by
  obtain ⟨hchain, hflatten⟩ := List.forall_mem_append.mp h.elements
  refine (nameWords_sublist_segment hchain).append (List.Sublist.flatMap_right _ fun leg hleg => ?_)
  have hleg' : ∀ e ∈ leg, e.NamedBare :=
    fun e he => hflatten e (List.mem_flatten.mpr ⟨leg, hleg, he⟩)
  rw [segmentWords_legStart h.junction (hlegs leg hleg)]
  exact ((nameWords_sublist_segment hleg').cons _).cons_cons _

/-- The names of a graph are words of its command, in their order. -/
theorem namingWords_sublist_command {g : Graph} (hnames : ∀ c ∈ g.branches, c.NamedBare)
    (hlegs : g.FullLegs) (layout : Layout) :
    (g.branches.flatMap CompiledBranch.namingWords).Sublist
      (commandWords (g.command layout).toList) := by
  have hbranches : (g.branches.flatMap CompiledBranch.namingWords).Sublist
      (g.branches.flatMap branchWords) :=
    List.Sublist.flatMap_right _ fun c hc => namingWords_sublist (hnames c hc) (hlegs c hc)
  have hwords : commandWords (g.command layout).toList =
      commandWords g.header.toList ++ g.branches.flatMap branchWords := by
    cases layout with
    | compact => exact commandWords_command_compact hlegs
    | multiline => exact commandWords_command_multiline g
  rw [hwords]
  exact hbranches.trans (List.sublist_append_right ..)

/-- **Bare names.** Whatever a name is made of, it is a token, and the texts that come out as they
went in are the tokens. So the name of every source is one, and in the graph of every run so is each
name of an element and of a junction: it is written without quotes, and the command has it, in either
layout, as a word of its own. -/
theorem names_bare :
    (∀ raw, IsToken (ElementName.sanitize raw) ∧
      (ElementName.sanitize raw = raw ↔ IsToken raw) ∧
      ElementName.sanitize (ElementName.sanitize raw) = ElementName.sanitize raw) ∧
    (∀ camera uri, IsToken (Source.streamName camera uri)) ∧
    ∀ (x : Compiler) (inputs : Inputs) (count : Nat),
      let g := (compile x inputs count).1
      (∀ c ∈ g.branches, c.NamedBare) ∧
        ∀ layout, (g.branches.flatMap CompiledBranch.namingWords).Sublist
          (commandWords (g.command layout).toList) := by
  refine ⟨fun raw => ?_, Source.isToken_streamName, ?_⟩
  · have htoken := ElementName.sanitize_isToken raw
    exact ⟨htoken, ElementName.sanitize_eq_self_iff raw, ElementName.sanitize_eq_self htoken⟩
  · intro x inputs count g
    have hnames : ∀ c ∈ g.branches, c.NamedBare := by
      intro c hc
      obtain ⟨b, hb, last, rfl⟩ := mem_compile_branches hc
      exact x.compile_namedBare (isToken_sourceName hb) last
    have hlegs : g.FullLegs := by
      intro c hc
      obtain ⟨b, -, last, rfl⟩ := mem_compile_branches hc
      exact x.compile_legs_ne_nil b last
    exact ⟨hnames, namingWords_sublist_command hnames hlegs⟩

/-- An id with a digit in front, blanks, quotes and a letter of another script; and a camera without
an id, named for the end of its path. -/
theorem names_bare_odd_texts :
    let x : Compiler := ⟨Settings.ofEnvironment (fun _ => none) "0", ⟨"/m", "/v"⟩, {}⟩
    let inputs : Inputs :=
      ⟨[{ cameraId := some "9 \"é\"", workloads := .one "w x" },
          { streamUri := some "rtsp://h/ü b.mp4", workloads := .one "w x" }],
        ⟨[("w x", [{ kind := .detect }])]⟩⟩
    let g := (compile x inputs 1).1
    let words := ["name=cam_9_____1", "name=cam_9_____w_x_2", "name=t1_1_3", "t1_1_3.",
      "name=stream1_1_3", "t1_1_3.", "name=_C3_BC_20b_mp4_4", "name=cam2_w_x_5", "name=t2_1_6",
      "t2_1_6.", "name=stream2_1_6", "t2_1_6."]
    ElementName.sanitize "9 \"é\"" = "cam_9____" ∧ IsToken "cam_9____" ∧
      IsToken (Source.streamName inputs.cameras[0] none) ∧
      (∀ c ∈ g.branches, c.NamedBare) ∧
      ∀ layout, (words.map String.toList).Sublist (commandWords (g.command layout).toList) := by
  intro x inputs g words
  obtain ⟨hsanitize, hstream, hgraph⟩ := names_bare
  obtain ⟨hnames, hcommand⟩ := hgraph x inputs 1
  have hname : ElementName.sanitize "9 \"é\"" = "cam_9____" := by decide +kernel
  have hwords : g.branches.flatMap CompiledBranch.namingWords = words.map String.toList := by
    decide +kernel
  exact ⟨hname, hname ▸ (hsanitize _).1, hstream _ none, hnames, hwords ▸ hcommand⟩

end Graph
end CameraGraph
