import VocabBindings.Text.Basic

/-!
RDF terms and graphs. A graph is a set of triples that remembers the order in which they were first
added. Two literals are the same term if they agree in text, in datatype and, letter case aside, in
language.
-/

set_option autoImplicit false

namespace VocabBindings.Rdf

/-- A term: an IRI, a node that has a label in place of an IRI, or a text that may have a language
or a datatype. -/
inductive Term where
  | iri (t : Text)
  | blank (label : Text)
  | literal (t : Text) (language datatype : Option Text)
  deriving DecidableEq

namespace Term

def iri? : Term → Option Text
  | iri t => some t
  | _ => none

def text : Term → Text
  | iri t => t
  | blank label => label
  | literal t _ _ => t

def isEnglish : Term → Bool
  | literal _ language _ => language = some "en".toList
  | _ => false

def canonical : Term → Term
  | literal t language datatype => literal t (language.map (·.map Char.toLower)) datatype
  | other => other

end Term

structure Triple where
  subject : Term
  predicate : Term
  object : Term
  deriving DecidableEq

def Triple.canonical (t : Triple) : Triple :=
  ⟨t.subject.canonical, t.predicate.canonical, t.object.canonical⟩

structure Graph where
  triples : List Triple
  deriving DecidableEq

namespace Graph

def empty : Graph := ⟨[]⟩

def contains (g : Graph) (t : Triple) : Bool := g.triples.any (·.canonical = t.canonical)

/-- The graph with one more triple. One that is in the graph stays as it was spelled first. -/
def insert (g : Graph) (t : Triple) : Graph := if g.contains t then g else ⟨g.triples ++ [t]⟩

def ofList (triples : List Triple) : Graph := triples.foldl insert empty

def subjects (g : Graph) (predicate object : Term) : List Term :=
  (g.triples.filter fun t => t.predicate = predicate ∧ t.object = object).map Triple.subject

def objects (g : Graph) (subject predicate : Term) : List Term :=
  (g.triples.filter fun t => t.subject = subject ∧ t.predicate = predicate).map Triple.object

end Graph

end VocabBindings.Rdf
