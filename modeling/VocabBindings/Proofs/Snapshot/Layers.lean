import VocabBindings.Snapshot.JsonLd

/-!
Layers. The nodes of a document may lie in its top graph or in layers of it, and a plain array may
stand for the top graph. How items are divided into layers makes no difference, and neither does
whether there are layers at all, as long as no item could be taken for a layer itself.
-/

set_option autoImplicit false

namespace VocabBindings.JsonLd

def withGraph (items : List Json) : Json := .object [(graphKey, .array items)]

def layered (layers : List (List Json)) : Json := withGraph (layers.map withGraph)

/-- Whether an item of a top graph is taken for a layer: it is an object with a graph and without a
type. -/
def isLayer (item : Json) : Bool :=
  match fields? item with
  | some node => hasField graphKey node && !hasField typeKey node
  | none => false

variable {items : List Json}

theorem topItems_withGraph (items : List Json) : topItems (withGraph items) = items := rfl

theorem nodesOf_withGraph (items : List Json) :
    nodesOf (withGraph items) = items.filterMap fields? := rfl

theorem nodesOf_of_isLayer_eq_false {item : Json} (h : isLayer item = false) :
    nodesOf item = (fields? item).toList := by
  unfold isLayer at h
  unfold nodesOf
  cases hf : fields? item with
  | none => rfl
  | some node =>
    rw [hf] at h
    simp [h]

theorem flatMap_nodesOf (h : ∀ item ∈ items, isLayer item = false) :
    items.flatMap nodesOf = items.filterMap fields? := by
  induction items with
  | nil => rfl
  | cons item rest ih =>
    have hrest := ih fun other ho => h other (List.mem_cons_of_mem _ ho)
    rw [List.flatMap_cons, nodesOf_of_isLayer_eq_false (h item List.mem_cons_self), hrest,
      List.filterMap_cons]
    cases fields? item <;> rfl

theorem nodes_layered (layers : List (List Json)) :
    nodes (layered layers) = layers.flatten.filterMap fields? := by
  rw [nodes, layered, topItems_withGraph, List.flatMap_map]
  simp only [nodesOf_withGraph]
  rw [List.filterMap_flatten, List.flatMap_def]

theorem nodes_withGraph (h : ∀ item ∈ items, isLayer item = false) :
    nodes (withGraph items) = items.filterMap fields? := flatMap_nodesOf h

theorem nodes_array (h : ∀ item ∈ items, isLayer item = false) :
    nodes (.array items) = items.filterMap fields? := flatMap_nodesOf h

/-- A document in layers has the entries, or else the error, of the document with all items in its
top graph, and of the array of these items: those of the named objects among the items, read in
order. Any other division into layers gives the same, empty layers included. -/
theorem entries_layered (namespaces : List Text) (layers : List (List Json))
    (h : ∀ layer ∈ layers, ∀ item ∈ layer, isLayer item = false) :
    entries namespaces (layered layers) =
        entriesOf namespaces ((layers.flatten.filterMap fields?).filter isNamed) ∧
      entries namespaces (withGraph layers.flatten) = entries namespaces (layered layers) ∧
      entries namespaces (.array layers.flatten) = entries namespaces (layered layers) ∧
      ∀ others : List (List Json), others.flatten = layers.flatten →
        entries namespaces (layered others) = entries namespaces (layered layers) := by
  have hitems : ∀ item ∈ layers.flatten, isLayer item = false := by
    intro item hi
    obtain ⟨layer, hl, hi⟩ := List.mem_flatten.mp hi
    exact h layer hl item hi
  unfold entries
  simp only [nodes_layered]
  refine ⟨trivial, ?_, ?_, ?_⟩
  · rw [nodes_withGraph hitems]
  · rw [nodes_array hitems]
  · intro others ho
    rw [ho]

def scattered : List (List Json) :=
  [[.null, .object [(idKey, .text "A".toList), (typeKey, .text "rdfs:Class".toList)]], [],
    [.text "B".toList, .array [.object [(idKey, .text "B".toList)]], .object [],
      .object [(graphKey, .null), (idKey, .text "C".toList), (typeKey, .text "rdfs:Class".toList)]]]

theorem entries_layered_scattered :
    let classes : List Entry :=
      [{ id := "A".toList, kind := .schema, uri := "A".toList },
        { id := "C".toList, kind := .schema, uri := "C".toList }]
    (∀ layer ∈ scattered, ∀ item ∈ layer, isLayer item = false) ∧
      entries [] (layered scattered) = .ok classes ∧
      entries [] (withGraph scattered.flatten) = .ok classes ∧
      entries [] (.array scattered.flatten) = .ok classes ∧
      entries [] (layered (scattered.flatten.map fun item => [item])) = .ok classes := by
  intro classes
  have h : ∀ layer ∈ scattered, ∀ item ∈ layer, isLayer item = false := by decide
  obtain ⟨hlayered, hflat, harray, hothers⟩ := entries_layered [] scattered h
  have hclasses : entries [] (layered scattered) = .ok classes := hlayered.trans (by rfl)
  exact ⟨h, hclasses, hflat.trans hclasses, harray.trans hclasses,
    (hothers _ (by rfl)).trans hclasses⟩

end VocabBindings.JsonLd
