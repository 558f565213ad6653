import VocabBindings.Proofs.Snapshot.Document
import VocabBindings.Proofs.Snapshot.Graph

/-!
The two readings of a vocabulary agree. A document and a graph that say the same have the same
entries, up to order: the graph gives them in ascending order of their IRIs, and their references in
ascending order too.
-/

set_option autoImplicit false

namespace VocabBindings

/-- A document and a graph with the same descriptions have the same entries: those of the graph are
those of the document in ascending order of their IRIs, with references in ascending order. -/
theorem entries_graph_eq_entries_document (namespaces : List Text) {ds : List Description}
    (hproper : ∀ d ∈ ds, d.Proper) (hds : (ds.map Description.iri).Nodup) {document : Json}
    {g : Rdf.Graph} (hdocument : JsonLd.Documents document ds) (hg : g.Writes ds) :
    ∃ es, JsonLd.entries namespaces document = .ok es ∧
      g.entries namespaces =
        (es.mergeSort fun a b => Text.atMost a.uri b.uri).map Entry.arranged := by
  obtain ⟨order, hperm, hentries⟩ := JsonLd.entries_of_documents namespaces hdocument
    hproper
  refine ⟨_, hentries, ?_⟩
  let sorted := (order.map (Description.entry namespaces)).mergeSort fun a b =>
    Text.atMost a.uri b.uri
  have hsorted : sorted.Perm (order.map (Description.entry namespaces)) := List.mergeSort_perm _ _
  have huris : (sorted.map Entry.uri).Perm (ds.map Description.iri) := by
    have hmap := (hsorted.map Entry.uri).trans ((hperm.map _).map Entry.uri)
    rwa [List.map_map] at hmap
  have hnames : (NameSet.ofList (g.typed Terms.schemaClass ++ g.typed Terms.property)).names =
      sorted.map Entry.uri := by
    apply NameSet.names_ofList_eq
    · exact List.pairwise_map.mpr (Text.pairwise_mergeSort_by Entry.uri _)
    · exact huris.nodup_iff.mpr hds
    · exact fun iri => (Rdf.Graph.mem_typed_append_iff hds hg hproper).trans huris.mem_iff.symm
  rw [Rdf.Graph.entries, hnames, List.map_map]
  refine List.map_congr_left fun e he => ?_
  obtain ⟨d, hd, rfl⟩ := List.mem_map.mp (hsorted.mem_iff.mp he)
  have hmem := hperm.mem_iff.mp hd
  exact Rdf.Graph.entry_of_writes (hproper d hmem) hds hg hmem

def bookDescription : Description where
  iri := "https://schema.org/Book".toList
  isSchema := true
  isProperty := false
  label := some "Book".toList
  parents := ["https://schema.org/Work".toList, "https://schema.org/Item".toList]

def authorDescription : Description where
  iri := "http://schema.org/author".toList
  isSchema := false
  isProperty := true
  domains := ["https://schema.org/Book".toList, "http://schema.org/Book".toList]
  ranges := ["https://schema.org/Person".toList]

def referenceTo (iri : Text) : Json := .object [(JsonLd.idKey, .text iri)]

def bookNode : JsonLd.Node :=
  [(JsonLd.idKey, .text bookDescription.iri),
    (JsonLd.typeKey, .array [.text Terms.schemaClass]),
    ("rdfs:label".toList, .text "Book".toList),
    (Terms.subClassOf,
      .array [.text "https://schema.org/Work".toList,
        referenceTo "https://schema.org/Item".toList])]

def authorNode : JsonLd.Node :=
  [(JsonLd.idKey, .text authorDescription.iri),
    (JsonLd.typeKey, .text "rdf:Property".toList),
    ("schema:domainIncludes".toList, .array (authorDescription.domains.map referenceTo)),
    ("https://schema.org/rangeIncludes".toList, referenceTo "https://schema.org/Person".toList)]

def libraryDocument : Json :=
  .object [(JsonLd.graphKey,
    .array [.object [(JsonLd.graphKey, .array [.object authorNode])], .object bookNode])]

def libraryPredicate : Rdf.Field → Text
  | .kinds => Terms.type
  | .label => Terms.label
  | .comment => Terms.comment
  | .parents => Terms.subClassOf
  | .domains => Terms.plainVocabulary ++ Terms.domainIncludes
  | .ranges => Terms.secureVocabulary ++ Terms.rangeIncludes

def libraryGraph : Rdf.Graph :=
  ⟨[bookDescription, authorDescription].flatMap (Rdf.Graph.triplesOf libraryPredicate)⟩

theorem writes_bookNode : JsonLd.Writes bookNode bookDescription where
  iri := rfl
  kinds := ⟨_, rfl, [Terms.schemaClass], rfl, by decide +kernel, by decide +kernel,
    by decide +kernel⟩
  label := .inl ⟨_, rfl, .cons (.inl rfl) .nil⟩
  comment := .inr ⟨rfl, .nil⟩
  parents := .inl ⟨_, rfl, .cons (.inl rfl) (.cons (.inr ⟨_, rfl, rfl⟩) .nil)⟩
  domains := .inr ⟨rfl, .nil⟩
  ranges := .inr ⟨rfl, .nil⟩

theorem writes_authorNode : JsonLd.Writes authorNode authorDescription where
  iri := rfl
  kinds := ⟨_, rfl, ["rdf:Property".toList], rfl, by decide +kernel, by decide +kernel,
    by decide +kernel⟩
  label := .inr ⟨rfl, .nil⟩
  comment := .inr ⟨rfl, .nil⟩
  parents := .inr ⟨rfl, .nil⟩
  domains := .inl ⟨_, rfl, .cons (.inr ⟨_, rfl, rfl⟩) (.cons (.inr ⟨_, rfl, rfl⟩) .nil)⟩
  ranges := .inl ⟨_, rfl, .cons (.inr ⟨_, rfl, rfl⟩) .nil⟩

theorem entries_graph_eq_entries_document_library :
    let ds := [bookDescription, authorDescription]
    (∀ d ∈ ds, d.Proper) ∧ (ds.map Description.iri).Nodup ∧
      JsonLd.Documents libraryDocument ds ∧ libraryGraph.Writes ds ∧
      ∃ es, JsonLd.entries Name.vocabularyNamespaces libraryDocument = .ok es ∧
        libraryGraph.entries Name.vocabularyNamespaces =
          (es.mergeSort fun a b => Text.atMost a.uri b.uri).map Entry.arranged := by
  intro ds
  have hproper : ∀ d ∈ ds, d.Proper := by
    simp only [ds, List.mem_cons, List.not_mem_nil, or_false, forall_eq_or_imp, forall_eq]
    constructor <;> constructor <;> decide +kernel
  have hds : (ds.map Description.iri).Nodup := by decide +kernel
  have hdocument : JsonLd.Documents libraryDocument ds :=
    ⟨_, [[authorNode], [bookNode]], [authorDescription, bookDescription], .graph _ _ rfl,
      .cons (.layer _ _ rfl rfl) (.cons (.node _ rfl) .nil),
      .cons writes_authorNode (.cons writes_bookNode .nil), .swap ..⟩
  have hpredicate : ∀ f ∈ Rdf.Field.all, libraryPredicate f ∈ f.predicates := by decide +kernel
  have hgraph : libraryGraph.Writes ds :=
    ⟨fun _ => libraryPredicate, fun _ _ f => hpredicate f f.mem_all, fun _ => List.mem_flatMap⟩
  exact ⟨hproper, hds, hdocument, hgraph,
    entries_graph_eq_entries_document _ hproper hds hdocument hgraph⟩

end VocabBindings
