import CameraGraph.Proofs.StreamAddress

/-!
# CameraGraph.Proofs.RejectedAddress

Texts that are no address, and what is kept of them.

A text such as `rtsp://user@cam:70000/live?x=1#top` is no address, as its port is out of range, but it
is still plain to see which part of it is which. `WrittenAddress` is a text of this kind with its
parts, each without the marks that would end it. Taking such a text apart by position gives back its
parts (`UriParts.split_text`): every mark is looked for from the side on which no other part can hold
it. So the path and the query reach the streamer as they were written, and everything else that a
host is reached by is left behind.
-/

namespace CameraGraph.Source

/-- A text has none of some marks in it. -/
def Lacks (marks : List Char) (s : String) : Prop := ∀ c ∈ marks, c ∉ s.toList

instance (marks : List Char) (s : String) : Decidable (Lacks marks s) :=
  List.decidableBAll (fun c => c ∉ s.toList) marks

/-- An address as it is written: `scheme://user@host:port/path?query#fragment`, where the user, the
port, the path, the query and the fragment may be missing. -/
structure WrittenAddress where
  /-- The scheme. -/
  scheme : String
  /-- The user, with a password or without. -/
  user : Option String := none
  /-- The host. -/
  host : String
  /-- The port, which need not be a number. -/
  port : Option String := none
  /-- The path, with its slash. -/
  path : String := ""
  /-- The query. -/
  query : Option String := none
  /-- The fragment. -/
  fragment : Option String := none
  /-- A scheme has no slash. -/
  scheme_plain : Lacks ['/'] scheme := by decide
  /-- A user may have any number of `@` and `:`, but nothing that ends an authority. -/
  user_plain : ∀ u ∈ user, Lacks ['/', '?', '#'] u := by decide
  /-- A host has no mark at all. -/
  host_plain : Lacks ['/', '?', '#', '@', ':'] host := by decide
  /-- A port may have colons. -/
  port_plain : ∀ p ∈ port, Lacks ['/', '?', '#', '@'] p := by decide
  /-- A path starts with a slash. -/
  path_start : path = "" ∨ path.toList.head? = some '/' := by decide
  /-- A path has neither a query nor a fragment in it. -/
  path_plain : Lacks ['?', '#'] path := by decide
  /-- A query may have question marks. -/
  query_plain : ∀ q ∈ query, Lacks ['#'] q := by decide

/-- Without a slash there is no end of a scheme. -/
theorem UriParts.cutScheme_of_noSlash {cs : List Char} (h : '/' ∉ cs) : cutScheme cs = none := by
  induction cs with
  | nil => rfl
  | cons c r ih =>
      rw [List.mem_cons, not_or] at h
      have hfirst : ¬(c = ':' ∧ ['/', '/'] <+: r) := by
        rintro ⟨-, r', rfl⟩
        exact h.2 List.mem_cons_self
      rw [cutScheme_cons hfirst, ih h.2, Option.map_none]

/-- A part behind its mark, or nothing. -/
def marked (mark : Char) : Option String → List Char
  | none => []
  | some part => mark :: part.toList

theorem notMem_marked {c mark : Char} {part : Option String} (hmark : c ≠ mark)
    (hpart : ∀ s ∈ part, c ∉ s.toList) : c ∉ marked mark part := by
  cases part with
  | none => simp [marked]
  | some s => simp [marked, hmark, hpart s rfl]

/-- A part is cut off at its mark, if that is not met before. -/
theorem cut_marked {mark : Char} {before : List Char} (h : mark ∉ before) (part : Option String) :
    Text.cut mark (before ++ marked mark part) = (before, part.map (·.toList)) := by
  cases part with
  | none => simp [marked, Text.cut_of_notMem h]
  | some s => simp [marked, Text.cut_append h]

/-- A part is left behind at its mark, if that is not met before. -/
theorem takeWhile_marked {mark : Char} {before : List Char} (h : mark ∉ before)
    (part : Option String) : (before ++ marked mark part).takeWhile (· ≠ mark) = before := by
  have hall : ∀ c ∈ before, decide (c ≠ mark) = true := by
    intro c hc
    simpa using fun heq : c = mark => h (heq ▸ hc)
  rw [List.takeWhile_append_of_pos hall]
  cases part <;> simp [marked]

namespace WrittenAddress

variable (a : WrittenAddress)

/-- The user before the host. -/
def userChars : List Char := a.user.elim [] fun u => u.toList ++ ['@']

/-- The text between the two slashes and the path. -/
def authority : List Char := a.userChars ++ (a.host.toList ++ marked ':' a.port)

/-- The whole text. -/
def text : String :=
  String.ofList (a.scheme.toList ++ ':' :: '/' :: '/' ::
    (((a.authority ++ a.path.toList) ++ marked '?' a.query) ++ marked '#' a.fragment))

theorem notMem_authority {c : Char} (hc : c ∈ ['/', '?', '#']) : c ∉ a.authority := by
  have hmarks : c ≠ '@' ∧ c ≠ ':' := by
    simp only [List.mem_cons, List.not_mem_nil, or_false] at hc
    rcases hc with rfl | rfl | rfl <;> decide
  have huser : c ∉ a.userChars := by
    cases h : a.user with
    | none => simp [userChars, h]
    | some u => simp [userChars, h, hmarks.1, a.user_plain u h c hc]
  have hhost : c ∉ a.host.toList := a.host_plain c (List.mem_append_left ['@', ':'] hc)
  have hport : c ∉ marked ':' a.port := by
    refine notMem_marked hmarks.2 fun p hp => a.port_plain p hp c ?_
    exact List.mem_append_left ['@'] hc
  simp [authority, huser, hhost, hport]

/-- The host stands behind the last `@` and before the first colon that follows. -/
theorem host_of_authority :
    (a.authority.reverse.takeWhile (· ≠ '@')).reverse.takeWhile (· ≠ ':') = a.host.toList := by
  have hhost : '@' ∉ a.host.toList := a.host_plain '@' (by decide)
  have hport : '@' ∉ marked ':' a.port :=
    notMem_marked (by decide) fun p hp => a.port_plain p hp '@' (by decide)
  have hlast : ∀ c ∈ (a.host.toList ++ marked ':' a.port).reverse, decide (c ≠ '@') = true := by
    intro c hc
    rw [List.mem_reverse, List.mem_append] at hc
    rw [decide_eq_true_eq]
    rintro rfl
    exact hc.elim hhost hport
  have huser : a.userChars.reverse.takeWhile (· ≠ '@') = [] := by
    cases h : a.user <;> simp [userChars, h]
  rw [authority, List.reverse_append, List.takeWhile_append_of_pos hlast, huser, List.append_nil,
    List.reverse_reverse]
  exact takeWhile_marked (a.host_plain ':' (by decide)) a.port

/-- The path stands behind the authority. -/
theorem path_of_rest :
    (a.authority ++ a.path.toList).takeWhile (· ≠ '/') = a.authority ∧
      (a.authority ++ a.path.toList).dropWhile (· ≠ '/') = a.path.toList := by
  have hall : ∀ c ∈ a.authority, decide (c ≠ '/') = true := by
    intro c hc
    simpa using fun heq : c = '/' => a.notMem_authority (by decide) (heq ▸ hc)
  have hpath : a.path.toList.takeWhile (· ≠ '/') = [] ∧
      a.path.toList.dropWhile (· ≠ '/') = a.path.toList := by
    rcases a.path_start with hempty | hslash
    · simp [hempty]
    · obtain ⟨r, hr⟩ := List.head?_eq_some_iff.mp hslash
      simp [hr]
  rw [List.takeWhile_append_of_pos hall, List.dropWhile_append_of_pos hall, hpath.1, hpath.2]
  simp

/-- **Positions.** Taking an address apart by position gives back its parts. -/
theorem split_text :
    UriParts.split a.text = ⟨a.scheme, some a.host, none, a.path, a.query⟩ := by
  have hslash : '/' ∉ a.scheme.toList := a.scheme_plain '/' (by decide)
  have hscheme := UriParts.cutScheme_append (UriParts.cutScheme_of_noSlash hslash)
    (((a.authority ++ a.path.toList) ++ marked '?' a.query) ++ marked '#' a.fragment)
  have hfragment : '#' ∉ (a.authority ++ a.path.toList) ++ marked '?' a.query := by
    have hquery : '#' ∉ marked '?' a.query :=
      notMem_marked (by decide) fun q hq => a.query_plain q hq '#' (by decide)
    simp [a.notMem_authority (c := '#') (by decide), a.path_plain '#' (by decide), hquery]
  have hquery : '?' ∉ a.authority ++ a.path.toList := by
    simp [a.notMem_authority (c := '?') (by decide), a.path_plain '?' (by decide)]
  obtain ⟨hauthority, hpath⟩ := a.path_of_rest
  unfold UriParts.split
  simp only [text, String.toList_ofList, hscheme, Option.getD_some, cut_marked hfragment,
    cut_marked hquery, hauthority, hpath, a.host_of_authority, String.ofList_toList,
    Option.map_map]
  congr 1
  cases a.query <;> simp

end WrittenAddress

/-! ### Addresses at the streamer -/

namespace WrittenAddress

variable (a : WrittenAddress) {endpoint : Endpoint}

/-- The same scheme, path and query at a streamer. -/
def movedTo (endpoint : Endpoint) : String :=
  (if a.scheme = "" then "rtsp" else a.scheme) ++ "://" ++ endpoint.host ++ ":" ++ endpoint.port ++
    a.path ++ match a.query with
      | some q => if q = "" then "" else "?" ++ q
      | none => ""

/-- What is said about a text that is no address. -/
def refusal (e : Url.Error) : Entry :=
  .warning ("stream uri '" ++ a.text ++ "' does not parse (" ++ e.message ++
    "), re-hosting its path as written")

/-- Two addresses that differ in nothing but user, host, port and fragment. -/
structure SameTarget (a b : WrittenAddress) : Prop where
  /-- The schemes are the same. -/
  scheme : a.scheme = b.scheme
  /-- The paths are the same. -/
  path : a.path = b.path
  /-- The queries are the same. -/
  query : a.query = b.query

theorem SameTarget.movedTo_eq {a b : WrittenAddress} (h : a.SameTarget b) (endpoint : Endpoint) :
    a.movedTo endpoint = b.movedTo endpoint := by
  simp only [movedTo, h.scheme, h.path, h.query]

theorem rehost_parts (hhost : endpoint.host ≠ "") (hport : endpoint.port ≠ "") :
    (UriParts.mk a.scheme (some a.host) none a.path a.query).rehost endpoint =
      a.movedTo endpoint := by
  have hquery : ((a.query.filter (!·.isEmpty)).map ("?" ++ ·)).getD "" =
      match a.query with
      | some q => if q = "" then "" else "?" ++ q
      | none => "" := by
    cases a.query with
    | none => rfl
    | some q => by_cases hq : q = "" <;> simp [Option.filter, hq]
  simp only [UriParts.rehost, movedTo, hquery, String.isEmpty_iff, if_neg hhost, if_neg hport]

theorem rehostUri_text (hhost : endpoint.host ≠ "") (hport : endpoint.port ≠ "") {e : Url.Error}
    (he : Url.parse a.text = .error e) :
    rehostUri a.text endpoint = (a.movedTo endpoint, [a.refusal e]) := by
  unfold rehostUri
  rw [he]
  simp only [split_text, a.rehost_parts hhost hport]
  rfl

end WrittenAddress

/-- **Texts that are no address.** Whatever an address is put together from, position gives its parts
back. If it is no address after all, a streamer with a host and a port gets the scheme, the path and
the query as they were written, with one warning; nothing else in the text makes a difference. -/
theorem rehosted_as_written (a : WrittenAddress) :
    UriParts.split a.text = ⟨a.scheme, some a.host, none, a.path, a.query⟩ ∧
      ∀ endpoint : Endpoint, endpoint.host ≠ "" → endpoint.port ≠ "" →
        ∀ e, Url.parse a.text = .error e →
          rehostUri a.text endpoint = (a.movedTo endpoint, [a.refusal e]) ∧
            ∀ b : WrittenAddress, a.SameTarget b → (∃ e', Url.parse b.text = .error e') →
              (rehostUri b.text endpoint).1 = (rehostUri a.text endpoint).1 := by
  refine ⟨a.split_text, ?_⟩
  intro endpoint hhost hport e he
  have ha := a.rehostUri_text hhost hport he
  refine ⟨ha, ?_⟩
  intro b hsame hrejected
  obtain ⟨e', he'⟩ := hrejected
  rw [ha, b.rehostUri_text hhost hport he']
  exact (hsame.movedTo_eq endpoint).symm

/-- Ports out of range: the password with an `@` in it and both hosts are left behind, the marks in
the query stay. -/
theorem rehosted_as_written_credentials :
    let a : WrittenAddress :=
      { scheme := "rtsp", user := some "admin:p@ss", host := "cam", port := some "70000"
        path := "/live/a", query := some "q=/1?z=@:2", fragment := some "top#?" }
    let b : WrittenAddress :=
      { scheme := "rtsp", host := "10.0.0.5", port := some "x:y", path := "/live/a"
        query := some "q=/1?z=@:2" }
    let endpoint : Endpoint := ⟨"rtsp-streamer", "8554"⟩
    a.text = "rtsp://admin:p@ss@cam:70000/live/a?q=/1?z=@:2#top#?" ∧
      endpoint.host ≠ "" ∧ endpoint.port ≠ "" ∧ Url.parse a.text = .error .port ∧
      a.SameTarget b ∧ Url.parse b.text = .error .port ∧
      (rehostUri b.text endpoint).1 = "rtsp://rtsp-streamer:8554/live/a?q=/1?z=@:2" := by
  intro a b endpoint
  have ha : Url.parse a.text = .error .port := by decide +kernel
  have hb : Url.parse b.text = .error .port := by decide +kernel
  have hsame : a.SameTarget b := ⟨rfl, rfl, rfl⟩
  obtain ⟨-, hrehosted⟩ := rehosted_as_written a
  obtain ⟨htext, hothers⟩ := hrehosted endpoint (by decide) (by decide) _ ha
  refine ⟨by decide +kernel, by decide, by decide, ha, hsame, hb, ?_⟩
  rw [hothers b hsame ⟨_, hb⟩, htext]
  decide +kernel

end CameraGraph.Source
