import VocabBindings.Name.Namespace
import VocabBindings.NameSet
import VocabBindings.Rdf.Graph
import VocabBindings.Vocabulary.Entry
import VocabBindings.Vocabulary.Terms

/-!
Vocabulary entries of an RDF graph: one for every IRI that is a class or a property, in ascending
order of the IRIs. What is declared as both is a class.
-/

set_option autoImplicit false

namespace VocabBindings.Rdf.Graph

def iris (terms : List Term) : List Text := terms.filterMap Term.iri?

def typed (g : Graph) (type : Text) : List Text := iris (g.subjects (.iri Terms.type) (.iri type))

/-- The text of a literal field: of its first English object, and else of its first object. -/
def literalText (g : Graph) (subject predicate : Text) : Text :=
  let objects := g.objects (.iri subject) (.iri predicate)
  match (objects.find? Term.isEnglish).or objects.head? with
  | some object => object.text
  | none => []

def ascending (texts : List Text) : List Text := texts.mergeSort Text.atMost

/-- The local names of the IRIs under some predicates, in ascending order. Two IRIs that share a
local name both count. -/
def localNames (namespaces : List Text) (g : Graph) (subject : Text) (predicates : List Text) :
    List Text :=
  let objects := predicates.flatMap fun predicate => g.objects (.iri subject) (.iri predicate)
  ascending ((NameSet.ofList (iris objects)).names.map (Name.localName namespaces))

def entry (namespaces : List Text) (g : Graph) (uri : Text) : Entry where
  id := Name.localName namespaces uri
  kind := if uri ∈ g.typed Terms.schemaClass then .schema else .property
  comment := g.literalText uri Terms.comment
  parents := localNames namespaces g uri [Terms.subClassOf]
  domains := localNames namespaces g uri (Terms.vocabularyPredicates Terms.domainIncludes)
  ranges := localNames namespaces g uri (Terms.vocabularyPredicates Terms.rangeIncludes)
  label := g.literalText uri Terms.label
  uri

def entries (namespaces : List Text) (g : Graph) : List Entry :=
  (NameSet.ofList (g.typed Terms.schemaClass ++ g.typed Terms.property)).names.map
    (entry namespaces g)

end VocabBindings.Rdf.Graph
