import Mathlib.Data.List.Forall2
import VocabBindings.Snapshot.JsonLd
import VocabBindings.Snapshot.Rdfs

/-!
Descriptions of classes and properties, and their two writings: as the nodes of a document and as
the triples of a graph. A description says what an entry is to hold, by full IRIs and without a
word on how it is written.
-/

set_option autoImplicit false

namespace VocabBindings

/-- What a vocabulary says about one class or property. -/
structure Description where
  iri : Text
  isSchema : Bool
  isProperty : Bool
  label : Option Text := none
  comment : Option Text := none
  parents : List Text := []
  domains : List Text := []
  ranges : List Text := []
  deriving DecidableEq

namespace Description

/-- A description of something named, whose lists name different things. -/
structure Proper (d : Description) : Prop where
  named : d.iri ≠ []
  declared : d.isSchema = true ∨ d.isProperty = true
  parents : d.parents.Nodup ∧ [] ∉ d.parents
  domains : d.domains.Nodup ∧ [] ∉ d.domains
  ranges : d.ranges.Nodup ∧ [] ∉ d.ranges

/-- The entry for a description, its references in the order of the description. What is declared
as both is a class. -/
def entry (namespaces : List Text) (d : Description) : Entry where
  id := Name.localName namespaces d.iri
  kind := if d.isSchema then .schema else .property
  comment := d.comment.getD []
  parents := d.parents.map (Name.localName namespaces)
  domains := d.domains.map (Name.localName namespaces)
  ranges := d.ranges.map (Name.localName namespaces)
  label := d.label.getD []
  uri := d.iri

end Description

/-! Descriptions as nodes of a document. -/

namespace JsonLd

def IsPlainText (t : Text) (item : Json) : Prop :=
  item = .text t ∨ ∃ node, item = .object node ∧ field valueKey node = .text t ∧
    hasField languageKey node = false

def IsReference (iri : Text) (item : Json) : Prop :=
  item = .text iri ∨ ∃ node, item = .object node ∧ field idKey node = .text iri

/-- What is said in a field is written under exactly one of its keys. A field that says nothing may
be left out. -/
def WrittenUnder (keys : List Text) (node : Node) (states : Json → Prop) : Prop :=
  (∃ value, keys.filterMap (Keyed.get? · node) = [value] ∧ states value) ∨
    (keys.filterMap (Keyed.get? · node) = [] ∧ states .null)

def StatesText (t : Option Text) (value : Json) : Prop :=
  List.Forall₂ IsPlainText t.toList value.toItems

def StatesIris (iris : List Text) (value : Json) : Prop :=
  List.Forall₂ IsReference iris value.toItems

def StatesKinds (isSchema isProperty : Bool) (value : Json) : Prop :=
  ∃ names : List Text, value.toItems = names.map .text ∧
    (∀ name ∈ names, name ∈ Terms.classTypes ∨ name ∈ Terms.propertyTypes) ∧
    (isSchema = true ↔ ∃ name ∈ names, name ∈ Terms.classTypes) ∧
    (isProperty = true ↔ ∃ name ∈ names, name ∈ Terms.propertyTypes)

/-- A node that says what a description does. Fields with other keys do not count. -/
structure Writes (node : Node) (d : Description) : Prop where
  iri : Keyed.get? idKey node = some (.text d.iri)
  kinds : ∃ value, Keyed.get? typeKey node = some value ∧ StatesKinds d.isSchema d.isProperty value
  label : WrittenUnder (Terms.schemaKeys "label".toList) node (StatesText d.label)
  comment : WrittenUnder (Terms.schemaKeys "comment".toList) node (StatesText d.comment)
  parents : WrittenUnder (Terms.schemaKeys "subClassOf".toList) node (StatesIris d.parents)
  domains : WrittenUnder (Terms.vocabularyKeys Terms.domainIncludes) node (StatesIris d.domains)
  ranges : WrittenUnder (Terms.vocabularyKeys Terms.rangeIncludes) node (StatesIris d.ranges)

/-- An item of a top graph: a node, or a layer with nodes of its own. -/
inductive Holds : Json → List Node → Prop where
  | node (n : Node) (h : hasField typeKey n = true) : Holds (.object n) [n]
  | layer (fields : Node) (nodes : List Node) (htype : hasField typeKey fields = false)
      (hgraph : Keyed.get? graphKey fields = some (.array (nodes.map .object))) :
      Holds (.object fields) nodes

/-- The layouts of a document: its items stand in a top graph, or in a plain array. -/
inductive LaidOut : Json → List Json → Prop where
  | graph (fields : Node) (items : List Json)
      (h : Keyed.get? graphKey fields = some (.array items)) : LaidOut (.object fields) items
  | array (items : List Json) : LaidOut (.array items) items

def Documents (document : Json) (ds : List Description) : Prop :=
  ∃ (items : List Json) (parts : List (List Node)) (order : List Description),
    LaidOut document items ∧ List.Forall₂ Holds items parts ∧
      List.Forall₂ Writes parts.flatten order ∧ order.Perm ds

end JsonLd

/-! Descriptions as triples of a graph. -/

namespace Rdf

def Term.plain (t : Text) : Term := .literal t none none

inductive Field where
  | kinds
  | label
  | comment
  | parents
  | domains
  | ranges
  deriving DecidableEq

namespace Field

def all : List Field := [kinds, label, comment, parents, domains, ranges]

theorem mem_all (f : Field) : f ∈ all := by cases f <;> decide

def predicates : Field → List Text
  | kinds => [Terms.type]
  | label => [Terms.label]
  | comment => [Terms.comment]
  | parents => [Terms.subClassOf]
  | domains => Terms.vocabularyPredicates Terms.domainIncludes
  | ranges => Terms.vocabularyPredicates Terms.rangeIncludes

theorem eq_of_mem_predicates {f other : Field} {predicate : Text} (h : predicate ∈ f.predicates)
    (hother : predicate ∈ other.predicates) : f = other := by
  have hdisjoint : ∀ f ∈ all, ∀ other ∈ all, ∀ p ∈ f.predicates, p ∈ other.predicates →
      f = other := by decide +kernel
  exact hdisjoint f f.mem_all other other.mem_all predicate h hother

def objects (d : Description) : Field → List Term
  | kinds =>
    (if d.isSchema then [.iri Terms.schemaClass] else []) ++
      if d.isProperty then [.iri Terms.property] else []
  | label => d.label.toList.map .plain
  | comment => d.comment.toList.map .plain
  | parents => d.parents.map .iri
  | domains => d.domains.map .iri
  | ranges => d.ranges.map .iri

end Field

namespace Graph

def triplesOf (predicate : Field → Text) (d : Description) : List Triple :=
  Field.all.flatMap fun f => (f.objects d).map fun object =>
    ⟨.iri d.iri, .iri (predicate f), object⟩

/-- A graph with the triples of descriptions, and no others. Which of its predicates a field has is
up to each description. -/
def Writes (g : Graph) (ds : List Description) : Prop :=
  ∃ predicate : Description → Field → Text,
    (∀ d ∈ ds, ∀ f : Field, predicate d f ∈ f.predicates) ∧
      ∀ t, t ∈ g.triples ↔ ∃ d ∈ ds, t ∈ triplesOf (predicate d) d

end Graph

end Rdf

end VocabBindings
