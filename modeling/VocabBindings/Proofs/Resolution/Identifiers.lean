import VocabBindings.Proofs.Module.Assignment
import VocabBindings.Proofs.Resolution.Suggestions
import VocabBindings.Proofs.Snapshot.Origin

/-!
Identifiers from a document. Classes are never without a name, so everything that is named after a
class is an identifier. A property is without a name exactly if it has no label and its identifier
in the document is nothing but a namespace, and a type if the document refers to a namespace alone.
-/

set_option autoImplicit false

namespace VocabBindings

theorem TypeNaming.target_eq_nil_iff {m : TypeNaming} (hm : m.overrides = []) {type : Text} :
    m.target type = [] ↔ type = [] := by
  have hbuiltIn : ∀ p ∈ builtIn, p.1 ≠ [] ∧ p.2 ≠ [] := by decide
  rw [target, primitive?]
  cases htarget : Keyed.get? type builtIn with
  | none => simp [hm, Keyed.get?]
  | some target =>
    obtain ⟨htype, hne⟩ := hbuiltIn _ (Keyed.mem_of_get? htarget)
    exact iff_of_false hne htype

section

open JsonLd

/-- When the names of a property are identifiers, by the node that it is read from. Its line in a
trait is an annotated assignment if they all are. -/
structure Attribute.Identified (namespaces : List Text) (node : Node) (e : Entry) (p : Attribute) :
    Prop where
  fieldName_iff : Name.IsIdentifier p.fieldName ↔ e.label ≠ [] ∨ ¬ Name.IsBare namespaces e.uri
  typeNames_iff : (∀ t ∈ p.typeNames, Name.IsIdentifier t) ↔
    ∀ item ∈ (rangeField node).toItems, (referenced item).isGiven →
      ¬ Name.IsBare namespaces (referenced item).toText
  line_iff : Module.IsAnnotatedAssignment (Module.fieldLine p) ↔
    Name.IsIdentifier p.fieldName ∧ ∀ t ∈ p.typeNames, Name.IsIdentifier t

theorem Context.identified_attributeOf {namespaces : List Text} {node : Node} {e : Entry}
    {m : TypeNaming} (hm : m.overrides = []) (h : ReadFrom namespaces node e) :
    (attributeOf m e).Identified namespaces node e := by
  refine ⟨?_, ?_, Module.isAnnotatedAssignment_fieldLine_iff⟩
  · have hlabel : labelOf e ≠ [] ↔ e.label ≠ [] ∨ e.id ≠ [] := by
      rw [labelOf]
      split <;> simp [*]
    have hid : e.id = [] ↔ Name.IsBare namespaces e.uri := by
      rw [h.id, Name.localName_eq_nil_iff]
      exact or_iff_right h.uri_ne_nil
    rw [Attribute.isIdentifier_fieldName_iff, ← hid]
    exact hlabel
  · have htypes : [] ∈ (attributeOf m e).types ↔ [] ∈ e.ranges := by
      simp [attributeOf, TypeNaming.target_eq_nil_iff hm]
    rw [Attribute.forall_isIdentifier_typeNames_iff, htypes, h.ranges, nil_mem_references_iff]
    simp only [not_exists, not_and]

end

/-- What a document is resolved to without overrides. The names of all classes are identifiers, and
every property is read from a node of the document that says when its names are. -/
theorem identifiers_of_resolveClasses {namespaces : List Text} {document : Json}
    {entries : List Entry} {schemas : List Text} {m naming : TypeNaming} {r : Resolution}
    (hentries : JsonLd.entries namespaces document = .ok entries) (hm : m.overrides = [])
    (h : resolveClasses entries schemas m = .ok (r, naming)) :
    ∀ c ∈ r.classes, c.HasIdentifiers ∧ ∀ p ∈ c.properties,
      ∃ node ∈ JsonLd.nodes document, ∃ e ∈ entries, JsonLd.ReadFrom namespaces node e ∧
        e.kind = .property ∧ c.name ∈ e.domains ∧ p.1 = Context.labelOf e ∧
        p.2 = Context.attributeOf m e ∧ p.2.Identified namespaces node e := by
  obtain ⟨index, c, hi, hc, rfl⟩ := exists_of_resolveClasses_eq_ok h
  obtain ⟨rfl, -⟩ := Index.ofEntries_eq_ok_iff.mp hi
  have ha := Context.answers_of_requireAll hc
  intro outline ho
  refine ⟨ClassOutline.hasIdentifiers (ha.name_ne_nil_of_mem_classes ho), fun p hp => ?_⟩
  obtain ⟨e, he, hkind, hdomain, rfl⟩ := Context.exists_of_mem_properties ha.index_eq ho hp
  obtain ⟨node, hnode, hnamed, heq⟩ := JsonLd.exists_of_mem_entries hentries he
  have hread := JsonLd.readFrom_of_entry hnamed heq
  exact ⟨node, hnode, e, he, hread, hkind, hdomain, rfl, rfl,
    Context.identified_attributeOf hm hread⟩

/-! A class with one property. -/

def thing : Entry where
  id := "Thing".toList
  kind := .schema
  uri := "Thing".toList

def thingDocument (uri : String) (fields : JsonLd.Node) : Json :=
  .array
    [.object [(JsonLd.idKey, .text thing.uri), (JsonLd.typeKey, .text "rdfs:Class".toList)],
      .object ((JsonLd.idKey, .text uri.toList) ::
        (JsonLd.typeKey, .text "rdf:Property".toList) ::
        ("schema:domainIncludes".toList, .text thing.uri) :: fields)]

def thingOutline (m : TypeNaming) (e : Entry) : ClassOutline where
  name := thing.id
  properties := [(Context.labelOf e, Context.attributeOf m e)]
  traits := (⟨[thing, e]⟩ : Index).lineage thing.id

theorem exists_resolveClasses_thing {e : Entry} (hid : e.id ≠ thing.id) (hkind : e.kind = .property)
    (hdomains : e.domains = [thing.id]) (m : TypeNaming) :
    ∃ r naming, resolveClasses [thing, e] [thing.id] m = .ok (r, naming) ∧
      r.classes = [thingOutline m e] := by
  let c : Context := { index := ⟨[thing, e]⟩, requested := [thing.id], required := [thing.id] }
  have hget : c.index.get? thing.id = some thing := by simp [c, Index.get?, hid]
  have hi : Index.ofEntries [thing, e] = .ok ⟨[thing, e]⟩ := by
    refine Index.ofEntries_eq_ok_iff.mpr ⟨rfl, ?_⟩
    simp [Index.KindsAgree, hid, hid.symm]
  have hc : ({ index := ⟨[thing, e]⟩ : Context }).requireAll [thing.id] = (c, none) := by
    have hne : thing.id ≠ [] := by decide
    have hvisit : (⟨[thing, e]⟩ : Index).visit [] [(thing.id, none)] = ([thing.id], none) := by
      rw [Index.visit, if_neg (by simp [hne])]
      split
      · exact absurd (hget.symm.trans ‹_›) (by simp)
      · obtain rfl := Option.some.inj (hget.symm.trans ‹_›)
        simp [thing, Index.visit]
    simp [Context.requireAll, Context.request, Context.require, hne, hvisit, c]
  have houtline : c.index.outline? m thing.id = some (thingOutline m e) := by
    have hdeclarations : c.index.declarations thing.id = [e] := by
      simp [c, Index.declarations, Index.properties, hkind, hdomains, thing]
    rw [Index.outline?, hget, Index.declared, hdeclarations]
    rfl
  exact ⟨_, _, resolveClasses_eq_ok hi hc, List.filterMap_cons_some houtline⟩

theorem identifiers_of_resolveClasses_reserved :
    let ranges := ["schema:Text", "https://schema.org/3DModel"].map fun t => Json.text t.toList
    let document :=
      thingDocument "schema:class" [("schema:rangeIncludes".toList, .array ranges)]
    ∃ entries r naming, JsonLd.entries Name.vocabularyNamespaces document = .ok entries ∧
      resolveClasses entries [thing.id] {} = .ok (r, naming) ∧
      ∃ c p, c ∈ r.classes ∧ p ∈ c.properties ∧ c.HasIdentifiers ∧
        Module.fieldLine p.2 = "class_: Optional[Union[str, _3DModel]] = None".toList ∧
        Module.IsAnnotatedAssignment (Module.fieldLine p.2) := by
  intro ranges document
  let e : Entry :=
    { id := "class".toList, kind := .property, domains := [thing.id]
      ranges := ["Text".toList, "3DModel".toList], uri := "schema:class".toList }
  have hentries : JsonLd.entries Name.vocabularyNamespaces document = .ok [thing, e] := by rfl
  obtain ⟨r, naming, hr, hclasses⟩ :=
    exists_resolveClasses_thing (e := e) (by decide) rfl rfl {}
  have hc : thingOutline {} e ∈ r.classes := hclasses ▸ List.mem_cons_self
  obtain ⟨hnames, hattributes⟩ := identifiers_of_resolveClasses hentries rfl hr _ hc
  obtain ⟨_, -, _, -, -, -, -, -, -, hidentified⟩ := hattributes _ List.mem_cons_self
  exact ⟨_, r, naming, hentries, hr, _, _, hc, List.mem_cons_self, hnames, by decide,
    hidentified.line_iff.mpr ⟨by decide, by decide⟩⟩

/-- A property and a type that are called like the vocabulary itself. -/
theorem exists_nameless_property :
    ∃ document entries r naming,
      JsonLd.entries Name.vocabularyNamespaces document = .ok entries ∧
      resolveClasses entries [thing.id] {} = .ok (r, naming) ∧
      ∃ c ∈ r.classes, ∃ p ∈ c.properties,
        Module.fieldLine p.2 = ": Optional[] = None".toList ∧
        ¬ Name.IsIdentifier p.2.fieldName ∧ (∃ t ∈ p.2.typeNames, ¬ Name.IsIdentifier t) ∧
        ¬ Module.IsAnnotatedAssignment (Module.fieldLine p.2) := by
  let e : Entry :=
    { id := [], kind := .property, domains := [thing.id], ranges := [[]]
      uri := "schema:".toList }
  have hentries : JsonLd.entries Name.vocabularyNamespaces
      (thingDocument "schema:" [("schema:rangeIncludes".toList, .text "schema:".toList)]) =
        .ok [thing, e] := by
    rfl
  obtain ⟨r, naming, hr, hclasses⟩ :=
    exists_resolveClasses_thing (e := e) (by decide) rfl rfl {}
  have hfield : ¬ Name.IsIdentifier (Context.attributeOf {} e).fieldName := by decide
  refine ⟨_, _, r, naming, hentries, hr, thingOutline {} e, hclasses ▸ List.mem_cons_self, _,
    List.mem_cons_self, by decide, hfield, ⟨[], by decide, by decide⟩, ?_⟩
  exact fun hline => hfield (Module.isAnnotatedAssignment_fieldLine_iff.mp hline).1

end VocabBindings
