import CameraGraph.Branch.Compile

/-!
# CameraGraph.Proofs.Elements

What can be read off elements: all values of one key, over elements, branches and whole graphs.

`Element.values` is the view that the other modules argue about. Each way of building an element has
one lemma that says what it adds to the view, and each part of a branch is then a computation.
-/

namespace CameraGraph

/-! ### One element -/

namespace Element

/-- All values of a key, in order. -/
def values (e : Element) (key : String) : List String :=
  (e.props.filter (·.1 == key)).map (·.2.value)

@[simp] theorem values_prop (e : Element) (k v key : String) :
    (e.prop k v).values key = e.values key ++ if k == key then [v] else [] := by
  by_cases h : k == key <;> simp [values, prop, List.filter_append, h, PropValue.value]

@[simp] theorem values_quotedProp (e : Element) (k v key : String) :
    (e.quotedProp k v).values key = e.values key ++ if k == key then [v] else [] := by
  by_cases h : k == key <;> simp [values, quotedProp, List.filter_append, h, PropValue.value]

/-- A property that may be missing adds nothing under another key. -/
theorem values_optionalProp (e : Element) (o : Option String) {k key : String} (h : k ≠ key) :
    (o.elim e (e.prop k)).values key = e.values key := by
  cases o with
  | none => rfl
  | some v => simp [h]

@[simp] theorem values_fragment (e : Element) (raw key : String) :
    (e.fragment raw).values key = e.values key := by
  unfold fragment
  cases Text.nonBlank? raw with
  | none => rfl
  | some s => rfl

@[simp] theorem values_mk (factory key : String) : (Element.mk factory [] []).values key = [] := rfl

@[simp] theorem values_element (factory key : String) : (element factory).values key = [] := rfl

@[simp] theorem factory_prop (e : Element) (k v : String) : (e.prop k v).factory = e.factory := rfl

@[simp] theorem factory_quotedProp (e : Element) (k v : String) :
    (e.quotedProp k v).factory = e.factory := rfl

@[simp] theorem factory_optionalProp (e : Element) (o : Option String) (k : String) :
    (o.elim e (e.prop k)).factory = e.factory := by
  cases o <;> rfl

@[simp] theorem factory_fragment (e : Element) (raw : String) :
    (e.fragment raw).factory = e.factory := by
  unfold fragment
  cases Text.nonBlank? raw <;> rfl

@[simp] theorem factory_element (factory : String) : (element factory).factory = factory := rfl

@[simp] theorem factory_queue : Element.queue.factory = "queue" := rfl

end Element

/-- All values of a key in a chain of elements, in order. -/
def chainValues (key : String) (es : List Element) : List String := es.flatMap (·.values key)

@[simp] theorem chainValues_nil (key : String) : chainValues key [] = [] := rfl

@[simp] theorem chainValues_cons (key : String) (e : Element) (es : List Element) :
    chainValues key (e :: es) = e.values key ++ chainValues key es := rfl

@[simp] theorem chainValues_append (key : String) (as bs : List Element) :
    chainValues key (as ++ bs) = chainValues key as ++ chainValues key bs :=
  List.flatMap_append ..

/-- Elements that are left out have no values to begin with. -/
theorem chainValues_filter_eq_nil {key : String} {es : List Element} (keep : Element → Bool)
    (h : chainValues key es = []) : chainValues key (es.filter keep) = [] := by
  rw [chainValues, List.flatMap_eq_nil_iff] at h ⊢
  exact fun e he => h e (List.mem_filter.mp he).1

/-- The keys of a queue. -/
def Element.queueKeys : List String := ["max-size-buffers", "max-size-time", "leaky"]

/-- A queue shows under its own keys only, -/
theorem values_queue {key : String} (hkey : ∀ k ∈ Element.queueKeys, k ≠ key) :
    Element.queue.values key = [] := by
  simp only [Element.queueKeys, List.forall_mem_cons] at hkey
  simp [Element.queue, hkey]

/-- which are none that tell elements apart. -/
@[simp] theorem values_queue_name : Element.queue.values "name" = [] := values_queue (by decide)

@[simp] theorem values_queue_filePath : Element.queue.values "file-path" = [] :=
  values_queue (by decide)

/-! ### Branches -/

namespace CompiledBranch

/-- All elements, from the source to the ends of the legs. -/
def elements (b : CompiledBranch) : List Element := b.chain ++ b.junction.legs.flatten

/-- The names of the elements. -/
def names (b : CompiledBranch) : List String := chainValues "name" b.elements

/-- The files that the publishing elements write. -/
def resultFiles (b : CompiledBranch) : List String :=
  chainValues "file-path" (b.elements.filter (·.factory == "gvametapublish"))

end CompiledBranch

end CameraGraph
