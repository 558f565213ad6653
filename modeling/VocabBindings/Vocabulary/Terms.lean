import VocabBindings.Text.Basic

/-!
The terms that a vocabulary is written with, as full IRIs and as the compact names that stand for
them in a document.
-/

set_option autoImplicit false

namespace VocabBindings.Terms

def rdf : Text := "http://www.w3.org/1999/02/22-rdf-syntax-ns#".toList

def rdfs : Text := "http://www.w3.org/2000/01/rdf-schema#".toList

def plainVocabulary : Text := "http://schema.org/".toList

def secureVocabulary : Text := "https://schema.org/".toList

def type : Text := rdf ++ "type".toList

def property : Text := rdf ++ "Property".toList

def first : Text := rdf ++ "first".toList

def rest : Text := rdf ++ "rest".toList

def nil : Text := rdf ++ "nil".toList

def schemaClass : Text := rdfs ++ "Class".toList

def subClassOf : Text := rdfs ++ "subClassOf".toList

def label : Text := rdfs ++ "label".toList

def comment : Text := rdfs ++ "comment".toList

def domainIncludes : Text := "domainIncludes".toList

def rangeIncludes : Text := "rangeIncludes".toList

/-- The keys of a term of the schema namespace: its compact name, then its IRI. -/
def schemaKeys (name : Text) : List Text := ["rdfs:".toList ++ name, rdfs ++ name]

def vocabularyKeys (name : Text) : List Text :=
  ["schema:".toList ++ name, plainVocabulary ++ name, secureVocabulary ++ name]

def vocabularyPredicates (name : Text) : List Text :=
  [secureVocabulary ++ name, plainVocabulary ++ name]

def classTypes : List Text := ["rdfs:Class".toList, schemaClass]

def propertyTypes : List Text := ["rdf:Property".toList, property]

end VocabBindings.Terms
