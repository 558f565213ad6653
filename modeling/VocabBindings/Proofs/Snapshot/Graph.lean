import VocabBindings.Proofs.Snapshot.Description
import VocabBindings.Proofs.Text.Sorting

/-!
Reading a graph. The objects of a subject under the predicates of a field are what the description
of the subject holds in that field, so the order of the triples does not count, and neither does
which of its predicates a field has.
-/

set_option autoImplicit false

namespace VocabBindings

namespace Rdf.Graph

variable {g : Graph} {ds : List Description} {d : Description}

theorem mem_objects_iff {subject predicate object : Term} :
    object ∈ g.objects subject predicate ↔ ⟨subject, predicate, object⟩ ∈ g.triples := by
  simp only [objects, List.mem_map, List.mem_filter, decide_eq_true_eq]
  constructor
  · rintro ⟨t, ⟨ht, rfl, rfl⟩, rfl⟩
    exact ht
  · exact fun h => ⟨_, ⟨h, rfl, rfl⟩, rfl⟩

theorem mem_subjects_iff {subject predicate object : Term} :
    subject ∈ g.subjects predicate object ↔ ⟨subject, predicate, object⟩ ∈ g.triples := by
  simp only [subjects, List.mem_map, List.mem_filter, decide_eq_true_eq]
  constructor
  · rintro ⟨t, ⟨ht, rfl, rfl⟩, rfl⟩
    exact ht
  · exact fun h => ⟨_, ⟨h, rfl, rfl⟩, rfl⟩

theorem mem_iris_iff {terms : List Term} {iri : Text} : iri ∈ iris terms ↔ .iri iri ∈ terms := by
  rw [iris, List.mem_filterMap]
  constructor
  · rintro ⟨term, hterm, hiri⟩
    cases term with
    | iri t =>
      obtain rfl : t = iri := Option.some.inj hiri
      exact hterm
    | blank label => cases hiri
    | literal t language datatype => cases hiri
  · exact fun h => ⟨_, h, rfl⟩

theorem mem_triplesOf_iff {predicate : Field → Text} {t : Triple} :
    t ∈ triplesOf predicate d ↔
      ∃ f : Field, ∃ object ∈ f.objects d, t = ⟨.iri d.iri, .iri (predicate f), object⟩ := by
  simp only [triplesOf, List.mem_flatMap, List.mem_map, Field.mem_all, true_and, eq_comm]

theorem mem_triples_iff (hds : (ds.map Description.iri).Nodup) (hg : g.Writes ds) (hd : d ∈ ds)
    (f : Field) {object : Term} :
    (∃ predicate ∈ f.predicates, ⟨.iri d.iri, .iri predicate, object⟩ ∈ g.triples) ↔
      object ∈ f.objects d := by
  obtain ⟨predicate, hpredicate, htriples⟩ := hg
  constructor
  · rintro ⟨p, hp, ht⟩
    obtain ⟨other, hother, ht⟩ := (htriples _).mp ht
    obtain ⟨otherField, found, hfound, heq⟩ := mem_triplesOf_iff.mp ht
    simp only [Triple.mk.injEq, Term.iri.injEq] at heq
    obtain ⟨hiri, rfl, rfl⟩ := heq
    obtain rfl : d = other := List.inj_on_of_nodup_map hds hd hother hiri
    obtain rfl := Field.eq_of_mem_predicates hp (hpredicate d hd otherField)
    exact hfound
  · intro hobject
    refine ⟨predicate d f, hpredicate d hd f, (htriples _).mpr ⟨d, hd, ?_⟩⟩
    exact mem_triplesOf_iff.mpr ⟨f, object, hobject, rfl⟩

theorem mem_flatMap_objects_iff (hds : (ds.map Description.iri).Nodup) (hg : g.Writes ds)
    (hd : d ∈ ds) (f : Field) (object : Term) :
    object ∈ f.predicates.flatMap (fun p => g.objects (.iri d.iri) (.iri p)) ↔
      object ∈ f.objects d := by
  simp only [List.mem_flatMap, mem_objects_iff, mem_triples_iff hds hg hd f]

theorem mem_typed_iff_mem_triples {iri type : Text} :
    iri ∈ g.typed type ↔ ⟨.iri iri, .iri Terms.type, .iri type⟩ ∈ g.triples := by
  rw [typed, mem_iris_iff, mem_subjects_iff]

theorem mem_typed_iff (hds : (ds.map Description.iri).Nodup) (hg : g.Writes ds) {iri type : Text} :
    iri ∈ g.typed type ↔ ∃ d ∈ ds, d.iri = iri ∧ .iri type ∈ Field.kinds.objects d := by
  rw [mem_typed_iff_mem_triples]
  constructor
  · intro ht
    obtain ⟨predicate, hpredicate, htriples⟩ := hg
    obtain ⟨d, hd, htriple⟩ := (htriples _).mp ht
    obtain ⟨_, _, _, heq⟩ := mem_triplesOf_iff.mp htriple
    simp only [Triple.mk.injEq, Term.iri.injEq] at heq
    obtain ⟨rfl, -, -⟩ := heq
    refine ⟨d, hd, rfl, ?_⟩
    rw [← mem_triples_iff hds ⟨predicate, hpredicate, htriples⟩ hd]
    exact ⟨Terms.type, List.mem_cons_self, ht⟩
  · rintro ⟨d, hd, rfl, hkind⟩
    obtain ⟨p, hp, ht⟩ := (mem_triples_iff hds hg hd .kinds).mpr hkind
    rwa [List.mem_singleton.mp hp] at ht

theorem mem_kinds_schema_iff :
    .iri Terms.schemaClass ∈ Field.kinds.objects d ↔ d.isSchema = true := by
  have hne : Terms.schemaClass ≠ Terms.property := by decide +kernel
  simp [Field.objects, hne]

theorem mem_kinds_property_iff :
    .iri Terms.property ∈ Field.kinds.objects d ↔ d.isProperty = true := by
  have hne : Terms.property ≠ Terms.schemaClass := by decide +kernel
  simp [Field.objects, hne]

theorem literalText_of_plain {subject predicate : Text} {t : Option Text}
    (h : ∀ object, object ∈ g.objects (.iri subject) (.iri predicate) ↔
      object ∈ t.toList.map Term.plain) : g.literalText subject predicate = t.getD [] := by
  rw [literalText]
  generalize g.objects (.iri subject) (.iri predicate) = objects at h
  cases t with
  | none =>
    obtain rfl : objects = [] := List.eq_nil_iff_forall_not_mem.mpr (by simpa using h)
    rfl
  | some t =>
    have hplain : ∀ object ∈ objects, object = .plain t := by simpa using fun o => (h o).mp
    have hnone : objects.find? Term.isEnglish = none := by
      rw [List.find?_eq_none]
      intro object hobject
      rw [hplain object hobject]
      simp [Term.isEnglish, Term.plain]
    cases objects with
    | nil => simpa using (h (.plain t)).mpr
    | cons first rest =>
      rw [hnone, List.head?_cons, Option.none_or, hplain first List.mem_cons_self]
      rfl

theorem localNames_of_iris (namespaces : List Text) {subject : Text} {predicates names : List Text}
    (hnames : names.Nodup)
    (h : ∀ object, object ∈ predicates.flatMap (fun p => g.objects (.iri subject) (.iri p)) ↔
      object ∈ names.map Term.iri) :
    localNames namespaces g subject predicates =
      (names.map (Name.localName namespaces)).mergeSort Text.atMost := by
  rw [localNames, ascending]
  apply Text.mergeSort_eq_of_perm
  refine List.Perm.map _ (NameSet.names_ofList_perm hnames fun iri => ?_)
  rw [mem_iris_iff, h]
  simp

end Rdf.Graph

def Entry.arranged (e : Entry) : Entry :=
  { e with
    parents := e.parents.mergeSort Text.atMost
    domains := e.domains.mergeSort Text.atMost
    ranges := e.ranges.mergeSort Text.atMost }

namespace Rdf.Graph

variable {namespaces : List Text} {g : Graph} {ds : List Description} {d : Description}

/-- What a graph has about a description is read as what it says, in ascending order. -/
theorem entry_of_writes (hproper : d.Proper) (hds : (ds.map Description.iri).Nodup)
    (hg : g.Writes ds) (hd : d ∈ ds) :
    entry namespaces g d.iri = (d.entry namespaces).arranged := by
  have hfield := mem_flatMap_objects_iff hds hg hd
  have hschema : d.iri ∈ g.typed Terms.schemaClass ↔ d.isSchema = true := by
    rw [mem_typed_iff hds hg]
    constructor
    · rintro ⟨other, hother, hiri, hkind⟩
      obtain rfl := List.inj_on_of_nodup_map hds hother hd hiri
      exact mem_kinds_schema_iff.mp hkind
    · exact fun h => ⟨d, hd, rfl, mem_kinds_schema_iff.mpr h⟩
  have hcomment : g.literalText d.iri Terms.comment = d.comment.getD [] :=
    literalText_of_plain fun object => by
      have h := hfield .comment object
      rwa [Field.predicates, List.flatMap_singleton] at h
  have hlabel : g.literalText d.iri Terms.label = d.label.getD [] :=
    literalText_of_plain fun object => by
      have h := hfield .label object
      rwa [Field.predicates, List.flatMap_singleton] at h
  have hparents := localNames_of_iris namespaces hproper.parents.1 (hfield .parents)
  have hdomains := localNames_of_iris namespaces hproper.domains.1 (hfield .domains)
  have hranges := localNames_of_iris namespaces hproper.ranges.1 (hfield .ranges)
  simp only [Field.predicates] at hparents hdomains hranges
  simp only [entry, hschema, hcomment, hlabel, hparents, hdomains, hranges]
  rfl

theorem mem_typed_append_iff (hds : (ds.map Description.iri).Nodup) (hg : g.Writes ds)
    (hproper : ∀ d ∈ ds, d.Proper) {iri : Text} :
    iri ∈ g.typed Terms.schemaClass ++ g.typed Terms.property ↔ iri ∈ ds.map Description.iri := by
  simp only [List.mem_append, mem_typed_iff hds hg, mem_kinds_schema_iff, mem_kinds_property_iff,
    List.mem_map]
  constructor
  · rintro (⟨d, hd, hiri, -⟩ | ⟨d, hd, hiri, -⟩) <;> exact ⟨d, hd, hiri⟩
  · rintro ⟨d, hd, hiri⟩
    exact (hproper d hd).declared.imp (fun h => ⟨d, hd, hiri, h⟩) fun h => ⟨d, hd, hiri, h⟩

end Rdf.Graph

end VocabBindings
