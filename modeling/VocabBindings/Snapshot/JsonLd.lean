import VocabBindings.Json.Value
import VocabBindings.Keyed
import VocabBindings.Name.Namespace
import VocabBindings.Vocabulary.Entry
import VocabBindings.Vocabulary.Terms

/-!
Vocabulary entries of a JSON-LD document. The nodes of a document lie in its top graph or one layer
below it. Every node with an identifier is an entry; a field that is written under several keys is
read from the first of them.
-/

set_option autoImplicit false

namespace VocabBindings.JsonLd

abbrev Node := List (Text × Json)

inductive NodeError where
  | identifierNotText
  | typeNotScalar
  deriving DecidableEq

def fields? : Json → Option Node
  | .object fields => some fields
  | _ => none

def field (key : Text) (node : Node) : Json := (Keyed.get? key node).getD .null

def hasField (key : Text) (node : Node) : Bool := (Keyed.get? key node).isSome

def graphKey : Text := "@graph".toList

def typeKey : Text := "@type".toList

def idKey : Text := "@id".toList

def languageKey : Text := "@language".toList

def valueKey : Text := "@value".toList

/-- The values in the top graph of a document. Without an object around it, the document is its own
top graph. -/
def topItems (document : Json) : List Json :=
  match document with
  | .object fields => (field graphKey fields).toItems
  | other => other.toItems

/-- The nodes of one value of the top graph: those of its layer if it is one, and else itself. -/
def nodesOf (item : Json) : List Node :=
  match fields? item with
  | none => []
  | some node =>
    if hasField graphKey node && !hasField typeKey node then
      (field graphKey node).toItems.filterMap fields?
    else [node]

def nodes (document : Json) : List Node := (topItems document).flatMap nodesOf

/-- The value of the first field of a list that is present, null if none is. -/
def firstGiven (node : Node) : List Text → Json
  | [] => .null
  | key :: rest =>
    match Keyed.get? key node with
    | some value => value
    | none => firstGiven node rest

def referenced (item : Json) : Json :=
  match fields? item with
  | some node => field idKey node
  | none => item

def references (namespaces : List Text) (value : Json) : List Text :=
  ((value.toItems.map referenced).filter Json.isGiven).map
    fun target => Name.localName namespaces target.toText

def isEnglish (item : Json) : Bool :=
  match fields? item with
  | some node =>
    match field languageKey node with
    | .text tag => tag = "en".toList
    | _ => false
  | none => false

def literalText (item : Json) : Text :=
  let value :=
    match fields? item with
    | some node => field valueKey node
    | none => item
  match value with
  | .null => []
  | other => other.toText

/-- The text of a literal field: of its first English value, and else of its first value. -/
def literal (value : Json) : Text :=
  match (value.toItems.find? isEnglish).or value.toItems.head? with
  | some item => literalText item
  | none => []

def isContainer : Json → Bool
  | .array _ => true
  | .object _ => true
  | _ => false

def namesAny (names : List Text) (items : List Json) : Bool :=
  items.any fun item =>
    match item with
    | .text t => names.contains t
    | _ => false

/-- The kind that the types of a node give it. To be a class comes before to be a property. -/
def kind (value : Json) : Except NodeError Entry.Kind :=
  let types := value.toItems
  if types.any isContainer then .error .typeNotScalar
  else if namesAny Terms.classTypes types then .ok .schema
  else if namesAny Terms.propertyTypes types then .ok .property
  else .ok .other

def entry (namespaces : List Text) (node : Node) : Except NodeError Entry :=
  match field idKey node with
  | .text uri =>
    (kind (field typeKey node)).map fun kind =>
      { id := Name.localName namespaces uri
        kind
        comment := literal (firstGiven node (Terms.schemaKeys "comment".toList))
        parents :=
          references namespaces (firstGiven node (Terms.schemaKeys "subClassOf".toList))
        domains :=
          references namespaces (firstGiven node (Terms.vocabularyKeys Terms.domainIncludes))
        ranges :=
          references namespaces (firstGiven node (Terms.vocabularyKeys Terms.rangeIncludes))
        label := literal (firstGiven node (Terms.schemaKeys "label".toList))
        uri }
  | _ => .error .identifierNotText

def entriesOf (namespaces : List Text) : List Node → Except NodeError (List Entry)
  | [] => .ok []
  | node :: rest =>
    match entry namespaces node with
    | .error e => .error e
    | .ok first => (entriesOf namespaces rest).map (first :: ·)

def isNamed (node : Node) : Bool := (field idKey node).isGiven

def entries (namespaces : List Text) (document : Json) : Except NodeError (List Entry) :=
  entriesOf namespaces ((nodes document).filter isNamed)

end VocabBindings.JsonLd
