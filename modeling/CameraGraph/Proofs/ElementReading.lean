import CameraGraph.Element
import Mathlib.Data.Option.Basic

/-!
# CameraGraph.Proofs.ElementReading

Reading the text of an element back.

A text is cut into items at the blanks outside quotes. The first item is the factory, each further
one a key and a value with an equals sign between them. Inside quotes a backslash and a quote stand
for a quote, every other character stands for itself, and the first other quote ends the value.

Writing escapes quotes and nothing else. That is enough for any value but one whose last character
is a backslash: in quotes, this backslash and the closing quote read as one quote, and the value runs
on into whatever follows. `InQuotes` is the grammar of quoted values that do end. What is written has
that form exactly when the value does not end in a backslash, and the text of an element can be read
back exactly when that holds of all values in quotes (`Element.text_reads_back_iff`).
-/

namespace CameraGraph

namespace PropValue

/-! ### Values in quotes -/

/-- A value, and its text behind the opening quote up to the closing one. -/
inductive InQuotes : List Char → List Char → Prop
  | close : InQuotes [] ['"']
  | quote {value text : List Char} :
      InQuotes value text → InQuotes ('"' :: value) ('\\' :: '"' :: text)
  | plain {c : Char} {value text : List Char} (hquote : c ≠ '"')
      (hescape : c = '\\' → text.head? ≠ some '"') :
      InQuotes value text → InQuotes (c :: value) (c :: text)

/-- The value of a text behind an opening quote, which has to end in the closing one. -/
def unquote? : List Char → Option (List Char)
  | [] => none
  | '\\' :: '"' :: rest => (unquote? rest).map ('"' :: ·)
  | '"' :: rest => if rest.isEmpty then some [] else none
  | c :: rest => (unquote? rest).map (c :: ·)

theorem unquote?_plain {c : Char} {rest : List Char} (hquote : c ≠ '"')
    (hescape : c = '\\' → rest.head? ≠ some '"') :
    unquote? (c :: rest) = (unquote? rest).map (c :: ·) := by
  cases rest with
  | nil => simp [unquote?]
  | cons d more =>
      by_cases hd : d = '"'
      · have hc : c ≠ '\\' := fun h => hescape h (by rw [hd]; rfl)
        rw [unquote?] <;> simp_all
      · rw [unquote?] <;> simp_all

theorem InQuotes.unquote?_eq {value text : List Char} (h : InQuotes value text) :
    unquote? text = some value := by
  induction h with
  | close => rfl
  | quote _ ih => rw [unquote?, ih]; rfl
  | plain hquote hescape _ ih => rw [unquote?_plain hquote hescape, ih]; rfl

theorem inQuotes_of_unquote? {value text : List Char} (h : unquote? text = some value) :
    InQuotes value text := by
  fun_induction unquote? text generalizing value with
  | case1 => exact absurd h (by simp)
  | case2 rest ih =>
      obtain ⟨v, hv, rfl⟩ := Option.map_eq_some_iff.mp h
      exact .quote (ih hv)
  | case3 rest hempty =>
      obtain rfl := Option.some.inj h
      rw [List.isEmpty_iff.mp hempty]
      exact .close
  | case4 rest hmore => exact absurd h (by simp)
  | case5 c rest hescape hquote ih =>
      obtain ⟨v, hv, rfl⟩ := Option.map_eq_some_iff.mp h
      refine .plain (fun hc => hquote hc) (fun hc hhead => ?_) (ih hv)
      obtain ⟨more, rfl⟩ := List.head?_eq_some_iff.mp hhead
      exact hescape more hc rfl

theorem InQuotes.ne_nil {value text : List Char} (h : InQuotes value text) : text ≠ [] := by
  cases h <;> exact List.cons_ne_nil _ _

/-- A value that its quote closes does not end in a backslash. -/
theorem InQuotes.getLast?_ne {value text : List Char} (h : InQuotes value text) :
    value.getLast? ≠ some '\\' := by
  induction h with
  | close => simp
  | @quote value text _ ih =>
      cases value with
      | nil => simp
      | cons d more => rwa [List.getLast?_cons_cons]
  | @plain c value text hquote hescape htext ih =>
      cases value with
      | nil =>
          -- Nothing but the closing quote follows, and that is no text behind a backslash.
          cases htext
          intro hlast
          exact hescape (by simpa using hlast) rfl
      | cons d more => rwa [List.getLast?_cons_cons]

theorem head?_written (c : Char) (value : List Char) :
    ((c :: value).flatMap quoteChar ++ ['"']).head? ≠ some '"' := by
  rw [List.flatMap_cons]
  by_cases hc : c = '"'
  · rw [quoteChar, if_pos hc]
    simp
  · rw [quoteChar, if_neg hc]
    simpa using hc

/-- **Values.** What is written inside quotes is closed by its quote exactly if the value does not
end in a backslash. -/
theorem inQuotes_written_iff (value : List Char) :
    InQuotes value (value.flatMap quoteChar ++ ['"']) ↔ value.getLast? ≠ some '\\' := by
  refine ⟨InQuotes.getLast?_ne, fun hlast => ?_⟩
  induction value with
  | nil => exact .close
  | cons c rest ih =>
      have hrest : InQuotes rest (rest.flatMap quoteChar ++ ['"']) := by
        refine ih fun h => hlast ?_
        cases rest with
        | nil => simp at h
        | cons d more => rwa [List.getLast?_cons_cons]
      by_cases hc : c = '"'
      · rw [List.flatMap_cons, quoteChar, if_pos hc, hc]
        exact .quote hrest
      · rw [List.flatMap_cons, quoteChar, if_neg hc]
        refine .plain hc (fun hescape => ?_) hrest
        cases rest with
        | nil => exact absurd (by rw [hescape]; rfl) hlast
        | cons d more => exact head?_written d more

/-- Whether a value is written inside quotes. -/
def isQuoted : PropValue → Bool
  | plain s => !isBare s
  | quoted _ => true

/-- The value ends where its text does: it is bare, or its last character does not escape the quote
behind it. -/
def Closes (v : PropValue) : Prop := v.isQuoted = true → v.value.toList.getLast? ≠ some '\\'

theorem toList_text_quoted {v : PropValue} (h : v.isQuoted = true) :
    v.text.toList = '"' :: (v.value.toList.flatMap quoteChar ++ ['"']) := by
  cases v with
  | plain s =>
      have hbare : isBare s = false := by simpa [isQuoted] using h
      simp [text, hbare, inQuotes, value]
  | quoted s => simp [text, inQuotes, value]

/-- Bare text is the value itself, without blanks and quotes. -/
theorem text_bare {v : PropValue} (h : v.isQuoted = false) :
    v.text = v.value ∧ v.value.toList ≠ [] ∧
      ∀ c ∈ v.value.toList, Text.isBlank c = false ∧ c ≠ '"' := by
  cases v with
  | quoted s => exact absurd h (by simp [isQuoted])
  | plain s =>
      have hbare : isBare s = true := by simpa [isQuoted] using h
      refine ⟨by simp [text, hbare, value], ?_, ?_⟩
      · simp only [isBare, Bool.and_eq_true, Bool.not_eq_true'] at hbare
        intro hnil
        rw [value, String.toList_eq_nil_iff] at hnil
        rw [hnil] at hbare
        exact absurd hbare.1 (by simp)
      · intro c hc
        simp only [isBare, Bool.and_eq_true, List.all_eq_true] at hbare
        simpa using hbare.2 c hc

/-- Reads a value: the inside of quotes, or the whole text. -/
def read? : List Char → Option (List Char)
  | '"' :: rest => unquote? rest
  | cs => some cs

theorem read?_text_bare {v : PropValue} (h : v.isQuoted = false) :
    read? v.text.toList = some v.value.toList := by
  obtain ⟨htext, -, hplain⟩ := text_bare h
  rw [htext]
  cases hvalue : v.value.toList with
  | nil => rfl
  | cons c rest =>
      have hc := (hplain c (by rw [hvalue]; exact List.mem_cons_self)).2
      unfold read?
      split
      · next heq => exact absurd (List.cons.inj heq).1 hc
      · rfl

end PropValue

namespace Element

/-! ### Items -/

/-- Puts characters in front of the first item. -/
def grow (cs : List Char) (items : List Char × List (List Char)) : List Char × List (List Char) :=
  (cs ++ items.1, items.2)

theorem grow_append (as bs : List Char) (items : List Char × List (List Char)) :
    grow (as ++ bs) items = grow as (grow bs items) := by
  rw [grow, grow, grow, List.append_assoc]

/-- Cuts a text at the blanks outside quotes, from a place inside quotes or outside: the first item,
and those behind it. Quotes have to be closed at the end. -/
def items? : Bool → List Char → Option (List Char × List (List Char))
  | false, [] => some ([], [])
  | true, [] => none
  | true, '\\' :: '"' :: rest => (items? true rest).map (grow ['\\', '"'])
  | inside, '"' :: rest => (items? (!inside) rest).map (grow ['"'])
  | false, ' ' :: rest => (items? false rest).map fun items => ([], items.1 :: items.2)
  | inside, c :: rest => (items? inside rest).map (grow [c])

theorem items?_inside {c : Char} {rest : List Char} (hquote : c ≠ '"')
    (hescape : c = '\\' → rest.head? ≠ some '"') :
    items? true (c :: rest) = (items? true rest).map (grow [c]) := by
  cases rest with
  | nil => simp [items?]
  | cons d more =>
      by_cases hd : d = '"'
      · have hc : c ≠ '\\' := fun h => hescape h (by rw [hd]; rfl)
        rw [items?] <;> simp_all
      · rw [items?] <;> simp_all

/-- Characters that are neither blanks nor quotes belong to one item. -/
theorem items?_plain {cs : List Char} (hcs : ∀ c ∈ cs, Text.isBlank c = false ∧ c ≠ '"')
    (rest : List Char) : items? false (cs ++ rest) = (items? false rest).map (grow cs) := by
  induction cs with
  | nil => exact Option.map_id_apply.symm
  | cons c more ih =>
      obtain ⟨hblank, hquote⟩ := hcs c List.mem_cons_self
      have hspace : c ≠ ' ' := fun h => by rw [h] at hblank; exact absurd hblank (by decide)
      have hone : items? false (c :: (more ++ rest)) =
          (items? false (more ++ rest)).map (grow [c]) := by
        rw [items?] <;> simp_all
      rw [List.cons_append, hone, ih fun d hd => hcs d (List.mem_cons_of_mem c hd), Option.map_map]
      rfl

/-- A value in quotes belongs to one item. -/
theorem items?_inQuotes {value text : List Char} (h : PropValue.InQuotes value text)
    (rest : List Char) : items? true (text ++ rest) = (items? false rest).map (grow text) := by
  induction h with
  | close => rfl
  | quote _ ih =>
      rw [List.cons_append, List.cons_append, items?, ih, Option.map_map]
      rfl
  | @plain c value text hquote hescape htext ih =>
      have hhead : c = '\\' → (text ++ rest).head? ≠ some '"' := by
        obtain ⟨d, more, rfl⟩ := List.exists_cons_of_ne_nil htext.ne_nil
        exact hescape
      rw [List.cons_append, items?_inside hquote hhead, ih, Option.map_map]
      rfl

/-! ### Properties -/

/-- The key and the value of an item. -/
def property? (item : List Char) : Option (String × String) :=
  match Text.cut '=' item with
  | (_, none) => none
  | (key, some value) =>
    (PropValue.read? value).map fun value => (String.ofList key, String.ofList value)

/-- The factory and the properties that a text stands for. -/
def read? (text : String) : Option (String × List (String × String)) :=
  (items? false text.toList).bind fun items =>
    (items.2.mapM property?).map fun props => (String.ofList items.1, props)

/-- A key is one token without an equals sign. -/
def IsKey (key : String) : Prop :=
  ∀ c ∈ key.toList, Text.isBlank c = false ∧ c ≠ '=' ∧ c ≠ '"'

-- The characters of a key are few, those of the type are not: the instance goes through the list.
instance (key : String) : Decidable (IsKey key) :=
  List.decidableBAll (fun c => Text.isBlank c = false ∧ c ≠ '=' ∧ c ≠ '"') key.toList

theorem IsKey.start {key : String} (h : IsKey key) :
    ∀ c ∈ key.toList ++ ['='], Text.isBlank c = false ∧ c ≠ '"' := by
  intro c hc
  rcases List.mem_append.mp hc with hc | hc
  · exact ⟨(h c hc).1, (h c hc).2.2⟩
  · rw [List.mem_singleton.mp hc]
    decide

theorem property?_key {key : String} (h : IsKey key) (value : List Char) :
    property? (key.toList ++ '=' :: value) =
      (PropValue.read? value).map fun value => (key, String.ofList value) := by
  have hkey : '=' ∉ key.toList := fun hc => (h '=' hc).2.1 rfl
  rw [property?, Text.cut_append hkey]
  simp

/-- A property as it is written, with the blank before it. -/
def propText (p : String × PropValue) : List Char :=
  ' ' :: (p.1.toList ++ '=' :: p.2.text.toList)

/-- Texts with a blank between them. -/
theorem toList_intercalate_blank (first : String) (rest : List String) :
    (" ".intercalate (first :: rest)).toList =
      first.toList ++ rest.flatMap fun s => ' ' :: s.toList := by
  induction rest generalizing first with
  | nil => simp
  | cons s more ih => simp [String.intercalate_cons_cons, ih]

theorem toList_text (factory : String) (props : List (String × PropValue)) :
    (Element.mk factory props []).text.toList = factory.toList ++ props.flatMap propText := by
  rw [text, words, List.append_nil, toList_intercalate_blank, List.flatMap_map]
  simp only [String.toList_append, List.append_assoc]
  rfl

/-! ### What is written is read -/

variable {key : String} {v : PropValue}

/-- A property with its value closed is one item, whatever follows. -/
theorem items?_property (hkey : IsKey key) (hv : v.Closes) (rest : List Char) :
    items? false ((key.toList ++ '=' :: v.text.toList) ++ rest) =
      (items? false rest).map (grow (key.toList ++ '=' :: v.text.toList)) := by
  have hvalue : items? false (v.text.toList ++ rest) =
      (items? false rest).map (grow v.text.toList) := by
    cases hquoted : v.isQuoted with
    | false =>
        obtain ⟨htext, -, hbare⟩ := PropValue.text_bare hquoted
        rw [htext]
        exact items?_plain hbare rest
    | true =>
        have hclosed := (PropValue.inQuotes_written_iff v.value.toList).mpr (hv hquoted)
        rw [PropValue.toList_text_quoted hquoted, List.cons_append, items?, Bool.not_false,
          items?_inQuotes hclosed, Option.map_map]
        rfl
  rw [List.append_cons, List.append_assoc, items?_plain hkey.start, hvalue, Option.map_map]
  congr 1
  funext items
  exact (grow_append _ _ items).symm

theorem property?_property (hkey : IsKey key) (hv : v.Closes) :
    property? (key.toList ++ '=' :: v.text.toList) = some (key, v.value) := by
  have hvalue : PropValue.read? v.text.toList = some v.value.toList := by
    cases hquoted : v.isQuoted with
    | false => exact PropValue.read?_text_bare hquoted
    | true =>
        have hclosed := (PropValue.inQuotes_written_iff v.value.toList).mpr (hv hquoted)
        rw [PropValue.toList_text_quoted hquoted]
        exact hclosed.unquote?_eq
  rw [property?_key hkey, hvalue, Option.map_some, String.ofList_toList]

/-- An item that starts with an open quote gives no value back that its quote fails to close. -/
theorem property?_open (hkey : IsKey key) (hv : ¬ v.Closes) (inside : List Char) :
    property? (key.toList ++ '=' :: '"' :: inside) ≠ some (key, v.value) := by
  intro h
  rw [property?_key hkey, Option.map_eq_some_iff] at h
  obtain ⟨value, hread, hpair⟩ := h
  obtain rfl : value = v.value.toList := by
    rw [← (Prod.mk.inj hpair).2, String.toList_ofList]
  have hclosed := PropValue.inQuotes_of_unquote? hread
  exact hv fun _ => hclosed.getLast?_ne

/-- The properties behind the first item of a text. -/
def props? (cs : List Char) : Option (List (String × String)) :=
  (items? false cs).bind fun items => items.2.mapM property?

/-- A text with nothing in it, or with a blank in front: no item goes on in it. -/
def StartsApart (cs : List Char) : Prop := cs = [] ∨ ∃ rest, cs = ' ' :: rest

theorem startsApart_props (props : List (String × PropValue)) :
    StartsApart (props.flatMap propText) := by
  cases props with
  | nil => exact .inl rfl
  | cons p rest => exact .inr ⟨_, rfl⟩

theorem items?_apart {cs : List Char} (h : StartsApart cs) {items : List Char × List (List Char)}
    (hitems : items? false cs = some items) : items.1 = [] := by
  rcases h with rfl | ⟨rest, rfl⟩
  · rw [← Option.some.inj hitems]
  · rw [items?, Option.map_eq_some_iff] at hitems
    obtain ⟨more, -, rfl⟩ := hitems
    rfl

theorem props?_space (cs : List Char) :
    props? (' ' :: cs) =
      (items? false cs).bind fun items => (items.1 :: items.2).mapM property? := by
  rw [props?, items?, Option.bind_map]
  rfl

/-- **One property.** It is read back, and what follows it too, exactly if its value closes. -/
theorem props?_step (hkey : IsKey key) {rest : List Char} (hrest : StartsApart rest)
    (more : List (String × String)) :
    props? (propText (key, v) ++ rest) = some ((key, v.value) :: more) ↔
      v.Closes ∧ props? rest = some more := by
  have htext : propText (key, v) ++ rest =
      ' ' :: ((key.toList ++ '=' :: v.text.toList) ++ rest) := rfl
  rw [htext, props?_space]
  by_cases hv : v.Closes
  · rw [items?_property hkey hv, Option.bind_map, props?]
    cases hitems : items? false rest with
    | none => simp
    | some items =>
        simp only [Option.bind_some, Function.comp_apply, grow, items?_apart hrest hitems,
          List.append_nil, List.mapM_cons, property?_property hkey hv]
        cases items.2.mapM property? with
        | none => simp
        | some props => simp [hv]
  · -- The item starts with the key and an open quote, wherever it ends.
    refine iff_of_false (fun h => ?_) fun h => hv h.1
    have hquoted : v.isQuoted = true := by
      by_contra hbare
      exact hv fun h => absurd h hbare
    rw [PropValue.toList_text_quoted hquoted, List.append_cons, List.append_assoc,
      items?_plain hkey.start, List.cons_append, items?, Bool.not_false, Option.map_map,
      Option.bind_map, Option.bind_eq_some_iff] at h
    obtain ⟨items, -, hprops⟩ := h
    simp only [Function.comp_apply, grow, List.mapM_cons] at hprops
    obtain ⟨pair, hpair, hprops⟩ := Option.bind_eq_some_iff.mp hprops
    obtain ⟨others, -, hcons⟩ := Option.bind_eq_some_iff.mp hprops
    obtain ⟨rfl, -⟩ := List.cons.inj (Option.some.inj hcons)
    refine property?_open hkey hv items.1 ?_
    simpa using hpair

/-- **All properties.** -/
theorem props?_iff {props : List (String × PropValue)} (hkeys : ∀ p ∈ props, IsKey p.1) :
    props? (props.flatMap propText) = some (props.map fun p => (p.1, p.2.value)) ↔
      ∀ p ∈ props, p.2.Closes := by
  induction props with
  | nil => exact iff_of_true rfl fun p hp => absurd hp List.not_mem_nil
  | cons p rest ih =>
      have hkey : IsKey p.1 := hkeys p List.mem_cons_self
      rw [List.flatMap_cons, List.map_cons, props?_step hkey (startsApart_props rest),
        ih fun q hq => hkeys q (List.mem_cons_of_mem p hq), List.forall_mem_cons]

/-- The element that properties are added to one after another. -/
def addAll (e : Element) : List (String × PropValue) → Element
  | [] => e
  | (key, .plain value) :: rest => (e.prop key value).addAll rest
  | (key, .quoted value) :: rest => (e.quotedProp key value).addAll rest

theorem addAll_eq (e : Element) (props : List (String × PropValue)) :
    e.addAll props = { e with props := e.props ++ props } := by
  induction props generalizing e with
  | nil => simp [addAll]
  | cons p rest ih =>
      obtain ⟨key, value | value⟩ := p
      · simp [addAll, ih, prop]
      · simp [addAll, ih, quotedProp]

/-- **Reading back.** For every factory that is one token without quotes, and properties added in
any mix under keys that are such tokens without equals signs: the text of the element gives its
factory and all its properties back exactly if no value that is written inside quotes ends in a
backslash. -/
theorem text_reads_back_iff (factory : String) (props : List (String × PropValue))
    (hfactory : ∀ c ∈ factory.toList, Text.isBlank c = false ∧ c ≠ '"')
    (hkeys : ∀ p ∈ props, IsKey p.1) :
    read? ((Element.mk factory [] []).addAll props).text =
        some (factory, props.map fun p => (p.1, p.2.value)) ↔
      ∀ p ∈ props, p.2.isQuoted = true → p.2.value.toList.getLast? ≠ some '\\' := by
  rw [addAll_eq, read?]
  simp only [List.nil_append]
  rw [toList_text, items?_plain hfactory, Option.bind_map]
  refine Iff.trans ?_ (props?_iff hkeys)
  rw [props?]
  cases hitems : items? false (props.flatMap propText) with
  | none => simp
  | some items =>
      have hfirst : items.1 = [] := items?_apart (startsApart_props props) hitems
      simp [grow, hfirst]

/-- Quotes, backslashes, blanks and nothing at all; a backslash at the end of a bare value. -/
theorem text_reads_back_mixed :
    let props : List (String × PropValue) :=
      [("a", .plain ""), ("b", .plain "\\ \"\n"), ("c", .quoted "é = \\\""), ("d", .plain "x\\")]
    (∀ c ∈ "e-1".toList, Text.isBlank c = false ∧ c ≠ '"') ∧ (∀ p ∈ props, IsKey p.1) ∧
      read? ((Element.mk "e-1" [] []).addAll props).text =
        some ("e-1", [("a", ""), ("b", "\\ \"\n"), ("c", "é = \\\""), ("d", "x\\")]) := by
  intro props
  have htoken : IsKey "e-1" := by decide
  have hfactory : ∀ c ∈ "e-1".toList, Text.isBlank c = false ∧ c ≠ '"' :=
    fun c hc => ⟨(htoken c hc).1, (htoken c hc).2.2⟩
  have hkeys : ∀ p ∈ props, IsKey p.1 := by decide
  have hcloses : ∀ p ∈ props, p.2.isQuoted = true → p.2.value.toList.getLast? ≠ some '\\' := by
    decide
  exact ⟨hfactory, hkeys, (text_reads_back_iff "e-1" props hfactory hkeys).mpr hcloses⟩

/-- An address that ends in a backslash leaves its quotes open. -/
theorem text_leaves_quotes_open :
    let source := (Element.mk "rtspsrc" [] []).quotedProp "location" "rtsp://h:1/a\\"
    let e := source.prop "protocols" "tcp"
    e.text = "rtspsrc location=\"rtsp://h:1/a\\\" protocols=tcp" ∧ read? e.text = none := by
  decide +kernel

end Element
end CameraGraph
