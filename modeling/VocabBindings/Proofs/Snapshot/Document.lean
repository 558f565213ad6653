import VocabBindings.Proofs.Snapshot.Description

/-!
Reading a document. However the nodes of a document are laid out, and whichever of its keys a field
has, a document has the entries of what it describes, in the order of its nodes.
-/

set_option autoImplicit false

namespace VocabBindings

namespace JsonLd

variable {namespaces : List Text} {node : Node} {d : Description}

theorem firstGiven_eq (node : Node) (keys : List Text) :
    firstGiven node keys = (keys.filterMap (Keyed.get? · node)).head?.getD .null := by
  induction keys with
  | nil => rfl
  | cons key rest ih =>
    rw [firstGiven, List.filterMap_cons]
    cases Keyed.get? key node with
    | some value => rfl
    | none => exact ih

theorem WrittenUnder.firstGiven {keys : List Text} {states : Json → Prop}
    (h : WrittenUnder keys node states) : states (firstGiven node keys) := by
  rw [firstGiven_eq]
  rcases h with ⟨value, hone, hstates⟩ | ⟨hnone, hstates⟩
  · rw [hone]
    exact hstates
  · rw [hnone]
    exact hstates

theorem literalText_of_isPlainText {t : Text} {item : Json} (h : IsPlainText t item) :
    literalText item = t := by
  rcases h with rfl | ⟨fields, rfl, hvalue, -⟩
  · rfl
  · simp only [literalText, fields?, hvalue]
    rfl

theorem literal_of_statesText {t : Option Text} {value : Json} (h : StatesText t value) :
    literal value = t.getD [] := by
  cases t with
  | none =>
    have hitems : value.toItems = [] := List.forall₂_nil_left_iff.mp h
    rw [literal, hitems]
    rfl
  | some t =>
    obtain ⟨item, rest, hitem, hrest, hitems⟩ := List.forall₂_cons_left_iff.mp h
    obtain rfl := List.forall₂_nil_left_iff.mp hrest
    have hfirst : ([item].find? isEnglish).or [item].head? = some item := by
      cases hlanguage : isEnglish item <;> simp [hlanguage]
    rw [literal, hitems, hfirst]
    exact literalText_of_isPlainText hitem

theorem referenced_of_isReference {iri : Text} {item : Json} (h : IsReference iri item) :
    referenced item = .text iri := by
  rcases h with rfl | ⟨fields, rfl, hid⟩
  · rfl
  · exact hid

theorem map_referenced {iris : List Text} {items : List Json}
    (h : List.Forall₂ IsReference iris items) : items.map referenced = iris.map .text := by
  induction h with
  | nil => rfl
  | cons hitem _ ih =>
    rw [List.map_cons, List.map_cons, referenced_of_isReference hitem, ih]

theorem references_of_statesIris {iris : List Text} {value : Json} (h : StatesIris iris value)
    (hnames : [] ∉ iris) : references namespaces value = iris.map (Name.localName namespaces) := by
  have hgiven : ∀ target ∈ iris.map Json.text, Json.isGiven target = true := by
    intro target htarget
    obtain ⟨iri, hiri, rfl⟩ := List.mem_map.mp htarget
    have hne : iri ≠ [] := fun hnil => hnames (hnil ▸ hiri)
    simp [Json.isGiven, hne]
  rw [references, map_referenced h, List.filter_eq_self.mpr hgiven, List.map_map]
  rfl

theorem namesAny_eq_true_iff {types names : List Text} :
    namesAny types (names.map .text) = true ↔ ∃ name ∈ names, name ∈ types := by
  simp [namesAny]

theorem kind_of_statesKinds {isSchema isProperty : Bool} {value : Json}
    (h : StatesKinds isSchema isProperty value)
    (hdeclared : isSchema = true ∨ isProperty = true) :
    kind value = .ok (if isSchema then .schema else .property) := by
  obtain ⟨names, hitems, -, hschema, hproperty⟩ := h
  have hscalar : (names.map Json.text).any isContainer = false := by simp [isContainer]
  simp only [kind, hitems, hscalar, Bool.false_eq_true, if_false, namesAny_eq_true_iff,
    ← hschema, ← hproperty]
  cases isSchema with
  | true => rfl
  | false => simp [hdeclared.resolve_left Bool.false_ne_true]

theorem entry_of_writes (h : Writes node d) (hd : d.Proper) :
    entry namespaces node = .ok (d.entry namespaces) := by
  obtain ⟨types, htypes, hkinds⟩ := h.kinds
  have hid : field idKey node = .text d.iri := by rw [field, h.iri]; rfl
  have htype : field typeKey node = types := by rw [field, htypes]; rfl
  simp only [entry, hid, htype, kind_of_statesKinds hkinds hd.declared, Except.map,
    literal_of_statesText h.label.firstGiven, literal_of_statesText h.comment.firstGiven,
    references_of_statesIris h.parents.firstGiven hd.parents.2,
    references_of_statesIris h.domains.firstGiven hd.domains.2,
    references_of_statesIris h.ranges.firstGiven hd.ranges.2]
  rfl

theorem entriesOf_of_writes {nodes : List Node} {ds : List Description}
    (h : List.Forall₂ Writes nodes ds) (hds : ∀ d ∈ ds, d.Proper) :
    entriesOf namespaces nodes = .ok (ds.map (Description.entry namespaces)) := by
  induction h with
  | nil => rfl
  | cons hwrites _ ih =>
    rw [entriesOf, entry_of_writes hwrites (hds _ List.mem_cons_self),
      ih fun d hd => hds d (List.mem_cons_of_mem _ hd)]
    rfl

theorem isNamed_of_writes {nodes : List Node} {ds : List Description}
    (h : List.Forall₂ Writes nodes ds) (hds : ∀ d ∈ ds, d.Proper) {node : Node}
    (hnode : node ∈ nodes) : isNamed node = true := by
  induction h with
  | nil => exact absurd hnode List.not_mem_nil
  | cons hwrites _ ih =>
    rcases List.mem_cons.mp hnode with rfl | hnode
    · rw [isNamed, field, hwrites.iri]
      simp [Json.isGiven, (hds _ List.mem_cons_self).named]
    · exact ih (fun d hd => hds d (List.mem_cons_of_mem _ hd)) hnode

theorem nodesOf_of_holds {item : Json} {nodes : List Node} (h : Holds item nodes) :
    nodesOf item = nodes := by
  cases h with
  | node n h => simp [nodesOf, fields?, h]
  | layer fields nodes htype hgraph =>
    have hhas : hasField graphKey fields = true := by simp [hasField, hgraph]
    have hitems : (field graphKey fields).toItems = nodes.map .object := by
      rw [field, hgraph]
      rfl
    simp [nodesOf, fields?, hhas, htype, hitems, List.filterMap_map, Function.comp_def]

theorem nodes_of_laidOut {document : Json} {items : List Json} {parts : List (List Node)}
    (hlaid : LaidOut document items) (h : List.Forall₂ Holds items parts) :
    nodes document = parts.flatten := by
  have htop : topItems document = items := by
    cases hlaid with
    | graph fields items h =>
      rw [topItems, field, h]
      rfl
    | array items => rfl
  rw [nodes, htop]
  clear htop hlaid
  induction h with
  | nil => rfl
  | cons hholds _ ih => rw [List.flatMap_cons, nodesOf_of_holds hholds, ih, List.flatten_cons]

/-- A document has the entries of what it describes, in the order of its nodes. -/
theorem entries_of_documents (namespaces : List Text) {document : Json}
    {ds : List Description} (h : Documents document ds) (hds : ∀ d ∈ ds, d.Proper) :
    ∃ order : List Description, order.Perm ds ∧
      entries namespaces document = .ok (order.map (Description.entry namespaces)) := by
  obtain ⟨items, parts, order, hlaid, hholds, hwrites, hperm⟩ := h
  have horder : ∀ d ∈ order, d.Proper := fun d hd => hds d (hperm.mem_iff.mp hd)
  have hnamed : ∀ node ∈ parts.flatten, isNamed node = true :=
    fun _ hnode => isNamed_of_writes hwrites horder hnode
  refine ⟨order, hperm, ?_⟩
  rw [entries, nodes_of_laidOut hlaid hholds, List.filter_eq_self.mpr hnamed,
    entriesOf_of_writes hwrites horder]

end JsonLd

end VocabBindings
