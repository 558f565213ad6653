import VocabBindings.Text.Markup
import VocabBindings.Resolve.Ancestry
import VocabBindings.Resolve.Outline
import VocabBindings.Resolve.TypeNaming

/-!
The state of a resolution. Classes are requested one after the other and bring their ancestors
along; then the properties are gathered on the required classes that are their domains; then the
outlines of the classes are drawn. A request that fails leaves behind what was found up to the
failure.
-/

set_option autoImplicit false

namespace VocabBindings

/-- The state of a resolution. The required classes stand in the order of their discovery, and the
property maps are keyed by class and then by label. -/
structure Context where
  index : Index
  requested : List Text := []
  required : List Text := []
  properties : List (Text × List (Text × Attribute)) := []
  suggestions : NameSet := .empty
  deriving DecidableEq

structure Registration where
  owner : Text
  label : Text
  property : Attribute
  deriving DecidableEq

namespace Context

def require (c : Context) (name : Text) : Context × Option MissingSchema :=
  let (required, missing) := c.index.visit c.required [(name, none)]
  ({ c with required }, missing)

/-- Notes that a class was requested. An empty name is not noted, and no name twice. -/
def request (c : Context) (name : Text) : Context :=
  if name = [] ∨ name ∈ c.requested then c else { c with requested := c.requested ++ [name] }

/-- Requests classes and adds them and their ancestors, up to the first that is missing. -/
def requireAll (c : Context) : List Text → Context × Option MissingSchema
  | [] => (c, none)
  | name :: rest =>
    match (c.request name).require name with
    | (next, none) => next.requireAll rest
    | (next, some missing) => (next, some missing)

def labelOf (e : Entry) : Text := if e.label = [] then e.id else e.label

def attributeOf (m : TypeNaming) (e : Entry) : Attribute where
  name := labelOf e
  description := Text.withoutMarkup e.comment
  types := e.ranges.map m.target
  reference := if e.uri = [] then e.id else e.uri

/-- The required classes among the domains of a property, as often as they are given. -/
def owners (c : Context) (e : Entry) : List Text := e.domains.filter (· ∈ c.required)

/-- The properties as they are stored, in the order of the index and of their domains. -/
def registrations (c : Context) (m : TypeNaming) : List Registration :=
  c.index.properties.flatMap fun e =>
    (c.owners e).map fun owner => ⟨owner, labelOf e, attributeOf m e⟩

def gatheredTypes (c : Context) : List Text :=
  (c.index.properties.filter fun e => c.owners e ≠ []).flatMap Entry.ranges

def propertiesOf (c : Context) (name : Text) : List (Text × Attribute) :=
  (Keyed.get? name c.properties).getD []

def store (c : Context) (r : Registration) : Context :=
  { c with
    properties :=
      Keyed.put r.owner (Keyed.put r.label r.property (c.propertiesOf r.owner)) c.properties }

/-- Stores the properties of the required classes. The types that are no primitives become
suggestions of the naming, and all its suggestions become suggestions of the resolution. -/
def gatherWith (c : Context) (m : TypeNaming) : Context × TypeNaming :=
  let m' := m.suggest c.gatheredTypes
  let c' := (c.registrations m).foldl store c
  ({ c' with suggestions := c.suggestions.insertAll m'.suggestions.names }, m')

def gather (c : Context) : Context := (c.gatherWith { suggestions := c.suggestions }).1

def outline (c : Context) (name : Text) (e : Entry) : ClassOutline where
  name
  description := Text.withoutMarkup e.comment
  parents := e.parents.filter (· ≠ [])
  properties := c.propertiesOf name
  traits := c.index.lineage name

/-- The outlines of a list of classes, or the first that the index does not hold. -/
def outlines (c : Context) : List Text → Except Text (List ClassOutline)
  | [] => .ok []
  | name :: rest =>
    match c.index.get? name with
    | none => .error name
    | some e => (c.outlines rest).map (c.outline name e :: ·)

def result (c : Context) : Except Text Resolution :=
  (c.outlines c.required).map fun classes =>
    { classes, requested := c.requested, suggestions := c.suggestions.names }

end Context

end VocabBindings
