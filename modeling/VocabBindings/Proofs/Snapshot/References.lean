import VocabBindings.Proofs.Snapshot.Failures
import VocabBindings.Proofs.Snapshot.Graph
import VocabBindings.Proofs.Snapshot.Origin
import VocabBindings.Proofs.Snapshot.Spelling

/-!
References of a field. In a graph the references of a field may stand under several predicates, and
all of them are read. In a node they may stand under several keys, and those under the first key
that the node has are read: no reference is lost exactly if the others name nothing else.
-/

set_option autoImplicit false

namespace VocabBindings

namespace Rdf.Field

def referring : List Field := [parents, domains, ranges]

def referencesOf (e : Entry) : Field → List Text
  | parents => e.parents
  | domains => e.domains
  | ranges => e.ranges
  | kinds | label | comment => []

theorem mem_referring_iff {f : Field} : f ∈ referring ↔ f = parents ∨ f = domains ∨ f = ranges := by
  simp [referring]

end Rdf.Field

namespace JsonLd

open Rdf (Field)

variable {namespaces : List Text} {node : Node} {keys : List Text} {names : List Text}

def given (namespaces : List Text) (node : Node) (key : Text) : List Text :=
  references namespaces (field key node)

/-- Among some names is the local name of every reference that a node has under some keys. A value
that says nothing is no reference. -/
def Keeps (namespaces : List Text) (node : Node) (keys names : List Text) : Prop :=
  ∀ key ∈ keys, ∀ value, Keyed.get? key node = some value → ∀ item ∈ value.toItems,
    (referenced item).isGiven → Name.localName namespaces (referenced item).toText ∈ names

theorem given_of_hasField_eq_false {key : Text} (h : hasField key node = false) :
    given namespaces node key = [] := by
  have hnone : Keyed.get? key node = none := by simpa [hasField] using h
  rw [given, field, hnone]
  rfl

theorem keeps_iff : Keeps namespaces node keys names ↔
    ∀ key ∈ keys, given namespaces node key ⊆ names := by
  refine forall₂_congr fun key _ => ?_
  rw [given, field]
  cases Keyed.get? key node with
  | none => simp [references, Json.toItems]
  | some value =>
    simp only [Option.some.injEq, forall_eq', Option.getD_some]
    constructor
    · intro h name hname
      obtain ⟨item, hitem, hgiven, rfl⟩ := mem_references_iff.mp hname
      exact h item hitem hgiven
    · exact fun h item hitem hgiven => h (mem_references_iff.mpr ⟨item, hitem, hgiven, rfl⟩)

/-- A field is read from the first of its keys that the node has. -/
theorem references_firstGiven (namespaces : List Text) (node : Node) (keys : List Text) :
    references namespaces (firstGiven node keys) =
      ((keys.filter (hasField · node)).head?.map (given namespaces node)).getD [] := by
  induction keys with
  | nil => rfl
  | cons key rest ih =>
    rw [firstGiven, List.filter_cons]
    cases h : Keyed.get? key node with
    | some value => simp [hasField, h, given, field]
    | none => simpa [hasField, h] using ih

/-- Nothing is lost exactly if what stands under the other keys stands under the first one too. -/
theorem keeps_given_iff {first : Text} {others : List Text}
    (h : keys.filter (hasField · node) = first :: others) :
    Keeps namespaces node keys (given namespaces node first) ↔
      ∀ key ∈ others, given namespaces node key ⊆ given namespaces node first := by
  rw [keeps_iff]
  constructor
  · intro hkeys key hkey
    have hmem : key ∈ keys.filter (hasField · node) := h ▸ List.mem_cons_of_mem first hkey
    exact hkeys key (List.mem_filter.mp hmem).1
  · intro hothers key hkey
    cases hhas : hasField key node with
    | false =>
      rw [given_of_hasField_eq_false hhas]
      exact List.nil_subset _
    | true =>
      have hmem : key ∈ first :: others := h ▸ List.mem_filter.mpr ⟨hkey, hhas⟩
      cases List.mem_cons.mp hmem with
      | inl hfirst => exact hfirst ▸ List.Subset.refl _
      | inr hother => exact hothers key hother

theorem exists_entry_iff {uri : Text} (huri : field idKey node = .text uri) :
    (∃ e, entry namespaces node = .ok e) ↔
      ∀ type ∈ (field typeKey node).toItems, isContainer type = false := by
  cases h : entry namespaces node with
  | error e =>
    cases entry_eq_error_iff.mp h with
    | identifierNotText hnone => exact absurd huri (hnone uri)
    | typeNotScalar _ htype => simpa using htype
  | ok e =>
    refine iff_of_true ⟨e, rfl⟩ fun type htype => ?_
    by_contra hcontainer
    have hfails : Fails node .typeNotScalar :=
      .typeNotScalar huri ⟨type, htype, by simpa using hcontainer⟩
    have herror : entry namespaces node = .error .typeNotScalar := entry_eq_error_iff.mpr hfails
    rw [h] at herror
    cases herror

theorem referencesOf_entry {e : Entry} {f : Field} (he : entry namespaces node = .ok e)
    (hf : f ∈ Field.referring) :
    f.referencesOf e = references namespaces (firstGiven node f.keys) := by
  obtain ⟨uri, k, -, -, rfl⟩ := exists_of_entry_eq_ok he
  obtain rfl | rfl | rfl := Field.mem_referring_iff.mp hf <;> rfl

end JsonLd

namespace Rdf.Graph

variable {namespaces : List Text} {g : Graph} {f : Field} {name : Text}

theorem mem_localNames_iff {subject : Text} {predicates : List Text} :
    name ∈ localNames namespaces g subject predicates ↔
      ∃ predicate ∈ predicates, ∃ iri,
        ⟨.iri subject, .iri predicate, .iri iri⟩ ∈ g.triples ∧
          Name.localName namespaces iri = name := by
  simp only [localNames, ascending, List.mem_mergeSort, List.mem_map, NameSet.mem_names_ofList,
    mem_iris_iff, List.mem_flatMap, mem_objects_iff]
  constructor
  · intro h
    obtain ⟨iri, ⟨predicate, hp, ht⟩, hname⟩ := h
    exact ⟨predicate, hp, iri, ht, hname⟩
  · intro h
    obtain ⟨predicate, hp, iri, ht, hname⟩ := h
    exact ⟨iri, ⟨predicate, hp, ht⟩, hname⟩

theorem referencesOf_entry {uri : Text} (hf : f ∈ Field.referring) :
    f.referencesOf (g.entry namespaces uri) = localNames namespaces g uri f.predicates := by
  obtain rfl | rfl | rfl := Field.mem_referring_iff.mp hf <;> rfl

end Rdf.Graph

namespace JsonLd

open Rdf (Field)

/-- A node with a text as its identifier has an entry exactly if its types are no containers. A
reference field of the entry is read from the first key of the field that the node has, and no
reference under any of the keys is lost exactly if those under the others are also under the first.
In a graph every reference is read, whichever of the predicates of the field it has. -/
theorem references_of_readers (namespaces : List Text) {node : Node} {uri : Text}
    (huri : field idKey node = .text uri) :
    ((∃ e, entry namespaces node = .ok e) ↔
        ∀ type ∈ (field typeKey node).toItems, isContainer type = false) ∧
      (∀ e, entry namespaces node = .ok e → ∀ f ∈ Field.referring,
        match f.keys.filter (hasField · node) with
        | [] => Keeps namespaces node f.keys [] ∧ f.referencesOf e = []
        | first :: others =>
          f.referencesOf e = given namespaces node first ∧
            (Keeps namespaces node f.keys (f.referencesOf e) ↔
              ∀ key ∈ others, given namespaces node key ⊆ given namespaces node first)) ∧
      ∀ (g : Rdf.Graph) (subject : Text), ∀ f ∈ Field.referring, ∀ name,
        name ∈ f.referencesOf (Rdf.Graph.entry namespaces g subject) ↔
          ∃ predicate ∈ f.predicates, ∃ iri,
            ⟨.iri subject, .iri predicate, .iri iri⟩ ∈ g.triples ∧
              Name.localName namespaces iri = name := by
  refine ⟨exists_entry_iff huri, fun e he f hf => ?_, fun g subject f hf name => ?_⟩
  · have hread := (referencesOf_entry he hf).trans (references_firstGiven namespaces node f.keys)
    split
    next hnone =>
      rw [hnone] at hread
      refine ⟨keeps_iff.mpr fun key hkey => ?_, hread⟩
      have hhas : ¬ hasField key node = true := List.filter_eq_nil_iff.mp hnone key hkey
      rw [given_of_hasField_eq_false (Bool.eq_false_iff.mpr hhas)]
      exact List.Subset.refl []
    next first others hkeys =>
      rw [hkeys] at hread
      have hfirst : f.referencesOf e = given namespaces node first := hread
      refine ⟨hfirst, ?_⟩
      rw [hfirst]
      exact keeps_given_iff hkeys
  · rw [Rdf.Graph.referencesOf_entry hf]
    exact Rdf.Graph.mem_localNames_iff

def spreadProperty (domains others : List String) : Node :=
  [(idKey, .text "schema:p".toList), (typeKey, .text "rdf:Property".toList),
    ("schema:domainIncludes".toList, .array (domains.map fun t => .text t.toList)),
    ("http://schema.org/domainIncludes".toList, .array (others.map fun t => .text t.toList))]

theorem references_of_readers_repeated :
    let node := spreadProperty ["schema:A", "schema:B"] ["https://schema.org/B"]
    ∃ e, entry Name.vocabularyNamespaces node = .ok e ∧ e.domains = ["A", "B"].map String.toList ∧
      Keeps Name.vocabularyNamespaces node Field.domains.keys e.domains := by
  intro node
  have huri : field idKey node = .text "schema:p".toList := rfl
  have htypes : (field typeKey node).toItems = [.text "rdf:Property".toList] := rfl
  have hkeys : Field.domains.keys.filter (hasField · node) =
      ["schema:domainIncludes".toList, "http://schema.org/domainIncludes".toList] := by decide
  obtain ⟨hentry, hfields, -⟩ := references_of_readers Name.vocabularyNamespaces huri
  obtain ⟨e, he⟩ := hentry.mpr (by simp [htypes, isContainer])
  have hdomains := hfields e he .domains (by decide)
  rw [hkeys] at hdomains
  obtain ⟨hfirst, hkeeps⟩ := hdomains
  exact ⟨e, he, hfirst, hkeeps.mpr (by decide)⟩

/-- A reference is lost that stands under a later key alone. -/
theorem exists_reference_lost :
    let node := spreadProperty ["schema:A"] ["https://schema.org/B"]
    ∃ e, entry Name.vocabularyNamespaces node = .ok e ∧ e.domains = ["A".toList] ∧
      ¬ Keeps Name.vocabularyNamespaces node Field.domains.keys e.domains := by
  refine ⟨_, rfl, rfl, fun h => ?_⟩
  have hkept := keeps_iff.mp h "http://schema.org/domainIncludes".toList (by decide)
  revert hkept
  decide

end JsonLd

end VocabBindings
