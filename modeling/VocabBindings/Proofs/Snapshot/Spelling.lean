import Mathlib.Logic.Relation
import VocabBindings.Proofs.Snapshot.Description

/-!
Spellings of a node. A field may stand under any of its keys, a value alone or in a list of one, a
reference alone or in an object, with any namespace of the vocabulary, and a text alone or in an
object; types may have their full names and stand in any order, repeatedly. All spellings of a node
are read alike.
-/

set_option autoImplicit false

namespace VocabBindings

def Rdf.Field.keys : Rdf.Field → List Text
  | kinds => [JsonLd.typeKey]
  | label => Terms.schemaKeys "label".toList
  | comment => Terms.schemaKeys "comment".toList
  | parents => Terms.schemaKeys "subClassOf".toList
  | domains => Terms.vocabularyKeys Terms.domainIncludes
  | ranges => Terms.vocabularyKeys Terms.rangeIncludes

namespace JsonLd

open Rdf (Field)

/-! What may be written in place of what. -/

inductive RespellsType : Json → Json → Prop where
  | schemaClass : RespellsType (.text "rdfs:Class".toList) (.text Terms.schemaClass)
  | property : RespellsType (.text "rdf:Property".toList) (.text Terms.property)

inductive RespellsText : Json → Json → Prop where
  | inObject (t : Text) : RespellsText (.text t) (.object [(valueKey, .text t)])

/-- One namespace of the vocabulary in place of another. -/
inductive Renames : Text → Text → Prop where
  | renamed (old new name : Text) (hold : old ∈ Name.vocabularyNamespaces)
      (hnew : new ∈ Name.vocabularyNamespaces) : Renames (old ++ name) (new ++ name)

inductive RespellsReference : Json → Json → Prop where
  | inObject {iri : Text} (h : iri ≠ []) :
      RespellsReference (.text iri) (.object [(idKey, .text iri)])
  | renamed {iri other : Text} (h : Renames iri other) :
      RespellsReference (.text iri) (.text other)
  | renamedInObject {node : Node} {iri other : Text}
      (hid : Keyed.get? idKey node = some (.text iri)) (h : Renames iri other) :
      RespellsReference (.object node) (.object (Keyed.put idKey (.text other) node))

def RespellsItem : Field → Json → Json → Prop
  | .kinds => RespellsType
  | .label | .comment => RespellsText
  | .parents | .domains | .ranges => RespellsReference

inductive RespellsValue (f : Field) : Json → Json → Prop where
  | alone {item other : Json} (h : RespellsItem f item other) : RespellsValue f item other
  | among (before after : List Json) {item other : Json} (h : RespellsItem f item other) :
      RespellsValue f (.array (before ++ item :: after)) (.array (before ++ other :: after))
  | listed {value : Json} (h : ∀ items, value ≠ .array items) :
      RespellsValue f value (.array [value])
  | typesReordered {types others : List Json} (hf : f = .kinds) (h : others.Perm types) :
      RespellsValue f (.array types) (.array others)
  | typeRepeated {type : Json} {types : List Json} (hf : f = .kinds) (h : type ∈ types) :
      RespellsValue f (.array types) (.array (type :: types))

/-- One step from a node to another spelling of it. A field changes its key only if it stands under
no other of its keys. The order of the fields does not count. -/
inductive Respells : Node → Node → Prop where
  | value {node : Node} {f : Field} {key : Text} {value other : Json} (hkey : key ∈ f.keys)
      (h : Keyed.get? key node = some value) (hvalue : RespellsValue f value other) :
      Respells node (Keyed.put key other node)
  | key {node : Node} {f : Field} {old new : Text} {value : Json} (hold : old ∈ f.keys)
      (hnew : new ∈ f.keys) (h : Keyed.get? old node = some value)
      (honly : ∀ key ∈ f.keys, key ≠ old → Keyed.get? key node = none) :
      Respells node (Keyed.put new value (Keyed.erase old node))
  | fieldsReordered {node other : Node} (h : ∀ key, Keyed.get? key other = Keyed.get? key node) :
      Respells node other

/-! Items of a field. -/

theorem kind_congr {value other : Json}
    (hcontainers : value.toItems.any isContainer = other.toItems.any isContainer)
    (hnames : ∀ names ∈ [Terms.classTypes, Terms.propertyTypes],
      namesAny names value.toItems = namesAny names other.toItems) : kind value = kind other := by
  unfold kind
  dsimp only
  rw [hcontainers, hnames _ List.mem_cons_self,
    hnames _ (List.mem_cons_of_mem _ List.mem_cons_self)]

theorem kind_among (before after : List Json) {item other : Json} (h : RespellsType item other) :
    kind (.array (before ++ item :: after)) = kind (.array (before ++ other :: after)) := by
  have hitem : isContainer item = isContainer other ∧
      ∀ names ∈ [Terms.classTypes, Terms.propertyTypes],
        namesAny names [item] = namesAny names [other] := by
    cases h <;> decide +kernel
  obtain ⟨hcontainer, hnames⟩ := hitem
  apply kind_congr
  · simp only [Json.toItems, List.any_append, List.any_cons, hcontainer]
  · intro names hn
    have hone := hnames names hn
    simp only [namesAny, List.any_cons, List.any_nil, Bool.or_false] at hone
    simp only [namesAny, Json.toItems, List.any_append, List.any_cons, hone]

theorem literal_eq (value : Json) :
    literal value =
      let said := value.toItems.map fun item => (isEnglish item, literalText item)
      (((said.find? Prod.fst).or said.head?).map Prod.snd).getD [] := by
  have hfind : ∀ items : List Json,
      (items.map fun item => (isEnglish item, literalText item)).find? Prod.fst =
        (items.find? isEnglish).map fun item => (isEnglish item, literalText item) :=
    fun items => List.find?_map ..
  simp only [literal, hfind, List.head?_map]
  cases value.toItems.find? isEnglish <;> cases value.toItems.head? <;> rfl

theorem literal_among (before after : List Json) {item other : Json} (h : RespellsText item other) :
    literal (.array (before ++ item :: after)) = literal (.array (before ++ other :: after)) := by
  have hitem : (isEnglish item, literalText item) = (isEnglish other, literalText other) := by
    cases h
    rfl
  simp only [literal_eq, Json.toItems, List.map_append, List.map_cons, hitem]

theorem localName_append {ns : Text} (h : ns ∈ Name.vocabularyNamespaces) (name : Text) :
    Name.localName Name.vocabularyNamespaces (ns ++ name) = name := by
  simp only [Name.vocabularyNamespaces, List.map_cons, List.map_nil, List.mem_cons,
    List.not_mem_nil, or_false] at h
  rcases h with rfl | rfl | rfl <;> rfl

theorem ne_nil_of_mem_vocabularyNamespaces {ns : Text} (h : ns ∈ Name.vocabularyNamespaces) :
    ns ≠ [] := by
  rintro rfl
  exact absurd h (by decide +kernel)

theorem Renames.names {iri other : Text} (h : Renames iri other) :
    iri ≠ [] ∧ other ≠ [] ∧ Name.localName Name.vocabularyNamespaces iri =
      Name.localName Name.vocabularyNamespaces other := by
  cases h with
  | renamed old new name hold hnew =>
    refine ⟨?_, ?_, by rw [localName_append hold, localName_append hnew]⟩
    · exact List.append_ne_nil_of_left_ne_nil (ne_nil_of_mem_vocabularyNamespaces hold) name
    · exact List.append_ne_nil_of_left_ne_nil (ne_nil_of_mem_vocabularyNamespaces hnew) name

theorem references_append (namespaces : List Text) (items others : List Json) :
    references namespaces (.array (items ++ others)) =
      references namespaces (.array items) ++ references namespaces (.array others) := by
  simp only [references, Json.toItems, List.map_append, List.filter_append]

theorem references_singleton {namespaces : List Text} {item : Json} {iri : Text}
    (h : referenced item = .text iri) (hiri : iri ≠ []) :
    references namespaces (.array [item]) = [Name.localName namespaces iri] := by
  simp [references, Json.toItems, h, Json.isGiven, hiri, Json.toText]

theorem references_among (before after : List Json) {item other : Json}
    (h : RespellsReference item other) :
    references Name.vocabularyNamespaces (.array (before ++ item :: after)) =
      references Name.vocabularyNamespaces (.array (before ++ other :: after)) := by
  have hitem : references Name.vocabularyNamespaces (.array [item]) =
      references Name.vocabularyNamespaces (.array [other]) := by
    cases h with
    | inObject h => rw [references_singleton rfl h, references_singleton rfl h]
    | renamed h =>
      rw [references_singleton rfl h.names.1, references_singleton rfl h.names.2.1, h.names.2.2]
    | @renamedInObject node iri new hid h =>
      have hold : referenced (.object node) = .text iri := by
        simp [referenced, fields?, field, hid]
      have hnew : referenced (.object (Keyed.put idKey (.text new) node)) = .text new := by
        simp [referenced, fields?, field, Keyed.get?_put]
      rw [references_singleton hold h.names.1, references_singleton hnew h.names.2.1, h.names.2.2]
  rw [← List.singleton_append, ← List.singleton_append (l := after), references_append,
    references_append, hitem, ← references_append, ← references_append]

/-! Values of a field. -/

/-- Two values that a field is read alike from. -/
def SameReading : Field → Json → Json → Prop
  | .kinds, value, other => kind value = kind other
  | .label, value, other | .comment, value, other => literal value = literal other
  | .parents, value, other | .domains, value, other | .ranges, value, other =>
    references Name.vocabularyNamespaces value = references Name.vocabularyNamespaces other

theorem SameReading.refl (f : Field) (value : Json) : SameReading f value value := by
  cases f <;> exact rfl

theorem SameReading.symm {f : Field} {value other : Json} (h : SameReading f value other) :
    SameReading f other value := by
  cases f <;> exact Eq.symm h

theorem SameReading.trans {f : Field} {value other third : Json} (h : SameReading f value other)
    (h' : SameReading f other third) : SameReading f value third := by
  cases f <;> exact Eq.trans h h'

theorem sameReading_listed (f : Field) {value : Json} (h : ∀ items, value ≠ .array items) :
    SameReading f value (.array [value]) := by
  cases value with
  | array items => exact absurd rfl (h items)
  | null => cases f <;> rfl
  | _ => cases f <;> rfl

theorem sameReading_among {f : Field} (before after : List Json) {item other : Json}
    (h : RespellsItem f item other) :
    SameReading f (.array (before ++ item :: after)) (.array (before ++ other :: after)) := by
  cases f with
  | kinds => exact kind_among before after h
  | label | comment => exact literal_among before after h
  | parents | domains | ranges => exact references_among before after h

theorem not_array_of_respellsItem {f : Field} {item other : Json} (h : RespellsItem f item other) :
    (∀ items, item ≠ .array items) ∧ ∀ items, other ≠ .array items := by
  cases f <;> cases h <;> simp

theorem kind_of_mem_iff {types others : List Json} (h : ∀ type, type ∈ types ↔ type ∈ others) :
    kind (.array types) = kind (.array others) := by
  have hany : ∀ p : Json → Bool, types.any p = others.any p := by
    intro p
    rw [Bool.eq_iff_iff, List.any_eq_true, List.any_eq_true]
    simp only [h]
  exact kind_congr (hany _) fun names _ => hany _

theorem sameReading_of_respellsValue {f : Field} {value other : Json}
    (h : RespellsValue f value other) : SameReading f value other := by
  cases h with
  | alone h =>
    obtain ⟨hitem, hother⟩ := not_array_of_respellsItem h
    exact ((sameReading_listed f hitem).trans (sameReading_among [] [] h)).trans
      (sameReading_listed f hother).symm
  | among before after h => exact sameReading_among before after h
  | listed h => exact sameReading_listed f h
  | typesReordered hf h =>
    subst hf
    exact kind_of_mem_iff fun type => h.mem_iff.symm
  | typeRepeated hf h =>
    subst hf
    refine kind_of_mem_iff fun type => ?_
    rw [List.mem_cons]
    exact ⟨.inr, fun hm => hm.elim (fun he => he ▸ h) id⟩

/-! Nodes. -/

theorem eq_of_mem_keys {f other : Field} {key : Text} (h : key ∈ f.keys)
    (hother : key ∈ other.keys) : f = other := by
  have hdisjoint : ∀ f ∈ Field.all, ∀ other ∈ Field.all, ∀ key ∈ f.keys, key ∈ other.keys →
      f = other := by decide +kernel
  exact hdisjoint f f.mem_all other other.mem_all key h hother

theorem idKey_not_mem_keys (f : Field) : idKey ∉ f.keys := by
  have hall : ∀ f ∈ Field.all, idKey ∉ f.keys := by decide +kernel
  exact hall f f.mem_all

section

variable {node other : Node} {keys : List Text} {key : Text} {value : Json}

theorem firstGiven_congr (h : ∀ key ∈ keys, Keyed.get? key other = Keyed.get? key node) :
    firstGiven other keys = firstGiven node keys := by
  induction keys with
  | nil => rfl
  | cons first rest ih =>
    rw [firstGiven, firstGiven, h first List.mem_cons_self,
      ih fun key hk => h key (List.mem_cons_of_mem _ hk)]

theorem firstGiven_put (h : Keyed.get? key node = some value) (new : Json) (keys : List Text) :
    (firstGiven node keys = value ∧ firstGiven (Keyed.put key new node) keys = new) ∨
      firstGiven (Keyed.put key new node) keys = firstGiven node keys := by
  induction keys with
  | nil => exact .inr rfl
  | cons first rest ih =>
    rw [firstGiven, firstGiven, Keyed.get?_put]
    by_cases hk : key = first
    · subst hk
      simp [h]
    · rw [if_neg hk]
      cases Keyed.get? first node with
      | some found => exact .inr rfl
      | none => exact ih

theorem firstGiven_of_only (hkey : key ∈ keys) (h : Keyed.get? key node = some value)
    (honly : ∀ other ∈ keys, other ≠ key → Keyed.get? other node = none) :
    firstGiven node keys = value := by
  induction keys with
  | nil => exact absurd hkey List.not_mem_nil
  | cons first rest ih =>
    rw [firstGiven]
    by_cases hk : first = key
    · rw [hk, h]
    · rw [honly first List.mem_cons_self hk]
      exact ih ((List.mem_cons.mp hkey).resolve_left (Ne.symm hk))
        fun other ho => honly other (List.mem_cons_of_mem _ ho)

/-- An entry is read from the identifier of a node and from what its fields say. -/
theorem entry_congr (hid : Keyed.get? idKey other = Keyed.get? idKey node)
    (h : ∀ f : Field, SameReading f (firstGiven node f.keys) (firstGiven other f.keys)) :
    entry Name.vocabularyNamespaces other = entry Name.vocabularyNamespaces node := by
  have htype : ∀ node : Node, firstGiven node Field.kinds.keys = field typeKey node := by
    intro node
    rw [Field.keys, firstGiven, field]
    cases Keyed.get? typeKey node <;> rfl
  have hkind := h .kinds
  rw [htype, htype] at hkind
  have hlabel := h .label
  have hcomment := h .comment
  have hparents := h .parents
  have hdomains := h .domains
  have hranges := h .ranges
  simp only [SameReading, Field.keys] at hkind hlabel hcomment hparents hdomains hranges
  simp only [entry, field, hid] at hkind ⊢
  simp only [hkind, hlabel, hcomment, hparents, hdomains, hranges]

/-- One step to another spelling does not change what is read. -/
theorem entry_of_step (h : Respells node other) :
    entry Name.vocabularyNamespaces other = entry Name.vocabularyNamespaces node := by
  cases h with
  | @value f key value new hkey hget hvalue =>
    have hfield : ∀ key' : Text, key' ≠ key →
        Keyed.get? key' (Keyed.put key new node) = Keyed.get? key' node := by
      intro key' hne
      rw [Keyed.get?_put, if_neg (Ne.symm hne)]
    refine entry_congr (hfield _ fun he => idKey_not_mem_keys f (he ▸ hkey)) fun g => ?_
    by_cases hg : g = f
    · subst hg
      rcases firstGiven_put hget new g.keys with ⟨hold, hnew⟩ | hsame
      · rw [hold, hnew]
        exact sameReading_of_respellsValue hvalue
      · rw [hsame]
        exact .refl g _
    · rw [firstGiven_congr fun key' hk =>
        hfield key' (by rintro rfl; exact hg (eq_of_mem_keys hk hkey))]
      exact .refl g _
  | @key f old new value hold hnew hget honly =>
    have hfield : ∀ key' ∉ f.keys,
        Keyed.get? key' (Keyed.put new value (Keyed.erase old node)) = Keyed.get? key' node := by
      intro key' hk
      have hne : new ≠ key' ∧ old ≠ key' := ⟨fun he => hk (he ▸ hnew), fun he => hk (he ▸ hold)⟩
      rw [Keyed.get?_put, if_neg hne.1, Keyed.get?_erase, if_neg hne.2]
    refine entry_congr (hfield _ (idKey_not_mem_keys f)) fun g => ?_
    by_cases hg : g = f
    · subst hg
      have hmoved : firstGiven (Keyed.put new value (Keyed.erase old node)) g.keys = value := by
        refine firstGiven_of_only hnew (by rw [Keyed.get?_put, if_pos rfl]) fun key' hk hne => ?_
        rw [Keyed.get?_put, if_neg (Ne.symm hne), Keyed.get?_erase]
        split
        · rfl
        · rename_i ho
          exact honly key' hk (Ne.symm ho)
      rw [firstGiven_of_only hold hget honly, hmoved]
      exact .refl g _
    · rw [firstGiven_congr fun key' hk => hfield key' fun hf => hg (eq_of_mem_keys hk hf)]
      exact .refl g _
  | fieldsReordered h =>
    refine entry_congr (h idKey) fun g => ?_
    rw [firstGiven_congr fun key' _ => h key']
    exact .refl g _

end

/-- A node has the same entry in all its spellings, or the same error. -/
theorem entry_of_respells {node other : Node} (h : Relation.ReflTransGen Respells node other) :
    entry Name.vocabularyNamespaces other = entry Name.vocabularyNamespaces node := by
  induction h with
  | refl => rfl
  | tail _ hstep ih => rw [entry_of_step hstep, ih]

def shortBook : Node :=
  [(idKey, .text "https://schema.org/Book".toList), (typeKey, .text "rdfs:Class".toList),
    ("rdfs:label".toList, .text "Book".toList),
    ("rdfs:subClassOf".toList, .text "schema:Work".toList)]

def longBook : Node :=
  [(idKey, .text "https://schema.org/Book".toList),
    (typeKey, .array [.text Terms.schemaClass, .text Terms.schemaClass]),
    ("rdfs:subClassOf".toList, .array [.object [(idKey, .text "http://schema.org/Work".toList)]]),
    (Terms.label, .object [(valueKey, .text "Book".toList)])]

theorem entry_of_respells_book :
    Relation.ReflTransGen Respells shortBook longBook ∧
      entry Name.vocabularyNamespaces longBook = .ok
        { id := "Book".toList
          kind := .schema
          parents := ["Work".toList]
          label := "Book".toList
          uri := "https://schema.org/Book".toList } := by
  have htype : typeKey ∈ Field.kinds.keys := List.mem_cons_self
  have hlabel : "rdfs:label".toList ∈ Field.label.keys := List.mem_cons_self
  have hfull : Terms.label ∈ Field.label.keys := by decide +kernel
  have hparents : "rdfs:subClassOf".toList ∈ Field.parents.keys := List.mem_cons_self
  have hwork : Renames "schema:Work".toList "http://schema.org/Work".toList :=
    .renamed "schema:".toList "http://schema.org/".toList "Work".toList (by decide) (by decide)
  have h : Relation.ReflTransGen Respells shortBook longBook := by
    refine .head (.value htype rfl (.alone .schemaClass)) ?_
    refine .head (.value htype rfl (.listed (by simp))) ?_
    refine .head (.value htype rfl (.typeRepeated rfl List.mem_cons_self)) ?_
    refine .head (.value hlabel rfl (.alone (.inObject _))) ?_
    refine .head (.key hlabel hfull rfl (by decide)) ?_
    refine .head (.value hparents rfl (.alone (.renamed hwork))) ?_
    refine .head (.value hparents rfl (.alone (.inObject (by decide)))) ?_
    refine .head (.value hparents rfl (.listed (by simp))) ?_
    exact .refl
  exact ⟨h, (entry_of_respells h).trans (by rfl)⟩

end JsonLd

end VocabBindings
