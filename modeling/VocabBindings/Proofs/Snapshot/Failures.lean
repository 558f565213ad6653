import VocabBindings.Snapshot.Read

/-!
Reading JSON files of any content. Whatever a file holds is a list of entries or makes the snapshot
unavailable, but for two faults: brackets that are nested too deeply, and a node whose identifier is
no text or whose types are no plain values.
-/

set_option autoImplicit false

namespace VocabBindings

namespace Text

variable {tail t : Text}

theorem endsWith_iff : endsWith tail t = true ↔ tail <:+ t := by
  rw [endsWith, startsWith, Option.isSome_iff_exists, ← List.reverse_prefix]
  simp only [after?_eq_some_iff]
  exact ⟨fun ⟨rest, h⟩ => ⟨rest, h.symm⟩, fun ⟨rest, h⟩ => ⟨rest, h.symm⟩⟩

theorem exists_lowerFrom_append (afterCased : Bool) (a b : Text) :
    ∃ front after, lowerFrom afterCased (a ++ b) = front ++ lowerFrom after b := by
  induction a generalizing afterCased with
  | nil => exact ⟨[], afterCased, rfl⟩
  | cons c rest ih =>
    obtain ⟨front, after, h⟩ := ih (if isCaseIgnorable c then afterCased else isCased c)
    rw [List.cons_append, lowerFrom, h, ← List.append_assoc]
    exact ⟨_, after, rfl⟩

theorem suffix_lower (hlower : ∀ afterCased, lowerFrom afterCased tail = tail) (h : tail <:+ t) :
    tail <:+ lower t := by
  obtain ⟨lead, rfl⟩ := h
  obtain ⟨front, after, h⟩ := exists_lowerFrom_append false lead tail
  rw [lower, h, hlower]
  exact List.suffix_append front tail

end Text

namespace JsonLd

variable {namespaces : List Text} {node : Node} {e : NodeError}

inductive Fails (node : Node) : NodeError → Prop
  | identifierNotText (h : ∀ uri, field idKey node ≠ .text uri) : Fails node .identifierNotText
  | typeNotScalar {uri : Text} (huri : field idKey node = .text uri)
      (h : ∃ type ∈ (field typeKey node).toItems, isContainer type = true) :
      Fails node .typeNotScalar

theorem kind_eq_error_iff {value : Json} :
    kind value = .error e ↔
      (∃ type ∈ value.toItems, isContainer type = true) ∧ e = .typeNotScalar := by
  rw [← List.any_eq_true]
  simp only [kind]
  split
  next h => rw [and_iff_right h, Except.error.injEq, eq_comm]
  next h =>
    refine iff_of_false ?_ fun hsome => h hsome.1
    split
    · nofun
    · split <;> nofun

theorem map_eq_error_iff {α β ε : Type} {f : α → β} {outcome : Except ε α} {e : ε} :
    outcome.map f = .error e ↔ outcome = .error e := by
  cases outcome <;> simp [Except.map]

theorem entry_eq_error_iff : entry namespaces node = .error e ↔ Fails node e := by
  unfold entry
  split
  next uri huri =>
    rw [map_eq_error_iff, kind_eq_error_iff]
    constructor
    · rintro ⟨htype, rfl⟩
      exact .typeNotScalar huri htype
    · rintro (hnone | ⟨-, htype⟩)
      · exact absurd huri (hnone uri)
      · exact ⟨htype, rfl⟩
  next hnone =>
    constructor
    · rintro ⟨⟩
      exact .identifierNotText hnone
    · rintro (- | ⟨huri, -⟩)
      · rfl
      · exact absurd huri (hnone _)

theorem entriesOf_cons_of_fails {first : Node} (rest : List Node) (h : Fails first e) :
    entriesOf namespaces (first :: rest) = .error e := by
  rw [entriesOf, entry_eq_error_iff.mpr h]

theorem entriesOf_cons_eq_error_iff {first : Node} {rest : List Node}
    (h : ∀ e, ¬ Fails first e) :
    entriesOf namespaces (first :: rest) = .error e ↔ entriesOf namespaces rest = .error e := by
  rw [entriesOf]
  split
  next found hfound => exact absurd (entry_eq_error_iff.mp hfound) (h found)
  next => exact map_eq_error_iff

/-- The entries of nodes are missing for the first node that fails. -/
theorem entriesOf_eq_error_iff {nodes : List Node} :
    entriesOf namespaces nodes = .error e ↔
      ∃ before node after, nodes = before ++ node :: after ∧
        (∀ other ∈ before, ∀ e, ¬ Fails other e) ∧ Fails node e := by
  constructor
  · intro herror
    induction nodes with
    | nil => cases herror
    | cons first rest ih =>
      by_cases h : ∃ e, Fails first e
      · obtain ⟨found, hfound⟩ := h
        obtain rfl : found = e :=
          Except.error.inj ((entriesOf_cons_of_fails rest hfound).symm.trans herror)
        exact ⟨[], first, rest, rfl, nofun, hfound⟩
      · rw [not_exists] at h
        obtain ⟨before, node, after, rfl, hbefore, hnode⟩ :=
          ih ((entriesOf_cons_eq_error_iff h).mp herror)
        exact ⟨first :: before, node, after, rfl, List.forall_mem_cons.mpr ⟨h, hbefore⟩, hnode⟩
  · rintro ⟨before, node, after, rfl, hbefore, hnode⟩
    induction before with
    | nil => exact entriesOf_cons_of_fails after hnode
    | cons first rest ih =>
      obtain ⟨hfirst, hrest⟩ := List.forall_mem_cons.mp hbefore
      exact (entriesOf_cons_eq_error_iff hfirst).mpr (ih hrest)

end JsonLd

namespace Snapshot

variable {namespaces : List Text} {files : Files.Tree} {path t : Text} {e : ReadError}

def IsJsonPath (path : Text) : Prop :=
  ".json".toList <:+ Text.lower path ∨ ".jsonld".toList <:+ Text.lower path

theorem isJsonPath_of_suffix (h : ".json".toList <:+ path ∨ ".jsonld".toList <:+ path) :
    IsJsonPath path :=
  h.imp (Text.suffix_lower (by decide)) (Text.suffix_lower (by decide))

theorem format_of_isJsonPath (h : IsJsonPath path) : format path = .jsonLd := by
  simp only [format, Bool.or_eq_true, Text.endsWith_iff]
  exact if_pos h

theorem bytesAt_of_isJsonPath (h : IsJsonPath path) :
    bytesAt files path = (files.read path).map (Prod.mk .jsonLd) := by
  have hformat := format_of_isJsonPath h
  have hheld : heldAt? path = none := by rw [heldAt?, hformat]
  unfold bytesAt
  split
  next bytes hbytes => rw [hbytes, hformat]; rfl
  next e he =>
    rw [he, hheld]
    split <;> rfl

def Holds (files : Files.Tree) (path t : Text) : Prop :=
  ∃ bytes written, files.read path = .ok bytes ∧ Text.decode bytes = .ok written ∧
    Text.withLineFeeds written = t

/-- What is wrong with a JSON text, if that does not make its file unavailable: its brackets, or the
first node that fails. -/
inductive Escapes (t : Text) : ReadError → Prop
  | nested {e : Json.ReadError} (hread : Json.read t = .error e)
      (hdeep : e.fault = .nestedTooDeep) : Escapes t (.json t e)
  | node {document : Json} {before after : List JsonLd.Node} {node : JsonLd.Node}
      {e : JsonLd.NodeError} (hread : Json.read t = .ok document)
      (hnodes : (JsonLd.nodes document).filter JsonLd.isNamed = before ++ node :: after)
      (hbefore : ∀ other ∈ before, ∀ e, ¬ JsonLd.Fails other e) (hfails : JsonLd.Fails node e) :
      Escapes t (.node e)

theorem source_of_unavailable {u : Unavailable} (h : e.unavailable? path = some u) :
    u.source = path := by
  cases e with
  | file e => cases h; rfl
  | encoding e => cases h; rfl
  | json t e =>
    simp only [ReadError.unavailable?] at h
    split at h
    · cases h
    · cases h; rfl
  | graph format fault =>
    simp only [ReadError.unavailable?] at h
    split at h
    · cases h; rfl
    · cases h
  | node e => cases h

theorem entriesOfDocument_escapes_iff :
    entriesOfDocument namespaces t = .error e ∧ e.unavailable? path = none ↔ Escapes t e := by
  unfold entriesOfDocument
  constructor
  · rintro ⟨hentries, hnone⟩
    split at hentries
    next fault hread =>
      cases hentries
      exact .nested hread (by simpa [ReadError.unavailable?] using hnone)
    next document hread =>
      cases hnodes : JsonLd.entries namespaces document with
      | ok es =>
        rw [hnodes] at hentries
        cases hentries
      | error e =>
        rw [hnodes] at hentries
        cases hentries
        obtain ⟨before, node, after, heq, hbefore, hfails⟩ :=
          JsonLd.entriesOf_eq_error_iff.mp hnodes
        exact .node hread heq hbefore hfails
  · rintro (⟨hread, hdeep⟩ | ⟨hread, heq, hbefore, hfails⟩)
    · simp [hread, ReadError.unavailable?, hdeep]
    · have hnodes : JsonLd.entries namespaces _ = .error _ :=
        JsonLd.entriesOf_eq_error_iff.mpr ⟨_, _, _, heq, hbefore, hfails⟩
      rw [hread]
      simp only [hnodes]
      exact ⟨rfl, rfl⟩

theorem read_of_holds (h : IsJsonPath path) (ht : Holds files path t) :
    read namespaces files path = entriesOfDocument namespaces t := by
  obtain ⟨bytes, written, hbytes, hwritten, rfl⟩ := ht
  rw [read, bytesAt_of_isJsonPath h, hbytes]
  simp only [Except.map, entriesOf, hwritten]

theorem exists_holds_of_unavailable_eq_none (h : IsJsonPath path)
    (he : read namespaces files path = .error e) (hnone : e.unavailable? path = none) :
    ∃ t, Holds files path t := by
  rw [read, bytesAt_of_isJsonPath h] at he
  cases hbytes : files.read path with
  | error fault =>
    rw [hbytes] at he
    cases he
    cases hnone
  | ok bytes =>
    cases hwritten : Text.decode bytes with
    | error fault =>
      simp only [hbytes, Except.map, entriesOf, hwritten] at he
      cases he
      cases hnone
    | ok written => exact ⟨_, bytes, written, hbytes, hwritten, rfl⟩

/-- Reading a JSON file gives entries, or an error that makes the snapshot at its path unavailable,
or one that escapes. Whether one escapes is a matter of the brackets and nodes of its text alone. -/
theorem read_of_isJsonPath (namespaces : List Text) (files : Files.Tree) (h : IsJsonPath path) :
    (∀ e u, read namespaces files path = .error e → e.unavailable? path = some u →
      u.source = path) ∧
    ∀ e, read namespaces files path = .error e ∧ e.unavailable? path = none ↔
      ∃ t, Holds files path t ∧ Escapes t e := by
  refine ⟨fun e u _ hu => source_of_unavailable hu, fun e => ⟨?_, ?_⟩⟩
  · rintro ⟨he, hnone⟩
    obtain ⟨t, ht⟩ := exists_holds_of_unavailable_eq_none h he hnone
    rw [read_of_holds h ht] at he
    exact ⟨t, ht, entriesOfDocument_escapes_iff.mp ⟨he, hnone⟩⟩
  · rintro ⟨t, ht, hescapes⟩
    rw [read_of_holds h ht]
    exact entriesOfDocument_escapes_iff.mpr hescapes

def oneFile (t : Text) : Files.Tree := ⟨[(["a.json".toList], .file (Text.encode t))]⟩

def nodesText : Text :=
  "[\x7b\"@id\": \"A\"\x7d, \x7b\"@id\": \"B\", \"@type\": [[]]\x7d]".toList

theorem read_of_isJsonPath_nodesText :
    IsJsonPath "a.json".toList ∧
      read Name.vocabularyNamespaces (oneFile nodesText) "a.json".toList =
        .error (.node .typeNotScalar) ∧
      (ReadError.node .typeNotScalar).unavailable? "a.json".toList = none := by
  have hpath : IsJsonPath "a.json".toList := isJsonPath_of_suffix (.inl ⟨['a'], rfl⟩)
  let first : JsonLd.Node := [(JsonLd.idKey, .text "A".toList)]
  let second : JsonLd.Node :=
    [(JsonLd.idKey, .text "B".toList), (JsonLd.typeKey, .array [.array []])]
  have hread : Json.read nodesText = .ok (.array [.object first, .object second]) := by rfl
  have hfirst : JsonLd.entry [] first =
      .ok { id := "A".toList, kind := .other, uri := "A".toList } := by rfl
  have hbefore (other : JsonLd.Node) (hother : other ∈ [first]) (e : JsonLd.NodeError) :
      ¬ JsonLd.Fails other e := by
    intro hfails
    rw [List.mem_singleton.mp hother, ← JsonLd.entry_eq_error_iff, hfirst] at hfails
    cases hfails
  have hsecond : JsonLd.Fails second .typeNotScalar :=
    .typeNotScalar rfl ⟨.array [], List.mem_cons_self, rfl⟩
  have hholds : Holds (oneFile nodesText) "a.json".toList nodesText :=
    ⟨Text.encode nodesText, nodesText, by rfl, by rfl, by rfl⟩
  exact ⟨hpath, ((read_of_isJsonPath Name.vocabularyNamespaces (oneFile nodesText) hpath).2 _).mpr
    ⟨nodesText, hholds, .node hread rfl hbefore hsecond⟩⟩

def numberedText : Text := "[\x7b\"@id\": 5\x7d]".toList

theorem exists_escaping_identifier :
    ".json".toList <:+ "a.json".toList ∧
      ∃ e, read Name.vocabularyNamespaces (oneFile numberedText) "a.json".toList = .error e ∧
        e.unavailable? "a.json".toList = none :=
  ⟨⟨['a'], rfl⟩, .node .identifierNotText, by rfl, rfl⟩

end Snapshot

end VocabBindings
