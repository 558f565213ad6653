import Mathlib.Logic.Basic
import VocabBindings.Snapshot.JsonLd

/-!
What the entries of a document come from. Every entry is a node with an identifier, and its name is
the end of that identifier. A name is empty exactly if the identifier is nothing but the namespace
that is removed from it.
-/

set_option autoImplicit false

namespace VocabBindings

theorem Text.ofNat_ne_nil (n : Nat) : ofNat n ≠ [] := Nat.toDigits_ne_nil

theorem Binary64.text_ne_nil (x : Binary64) : x.text ≠ [] := by
  have hpositional : ∀ digits point, positional digits point ≠ [] := by
    intro digits point
    unfold positional
    split
    · simp
    · split <;> simp
  have hscientific : ∀ digits point, scientific digits point ≠ [] := by
    intro digits point
    simp [scientific]
  unfold Binary64.text
  split
  · decide
  · simp
  · refine List.append_ne_nil_of_right_ne_nil _ ?_
    split
    · decide
    · dsimp only
      split
      · exact hpositional _ _
      · exact hscientific _ _

theorem Json.toText_ne_nil {value : Json} (h : value.isGiven) : value.toText ≠ [] := by
  cases value with
  | null => cases h
  | bool b => cases b <;> decide
  | int z =>
    show Text.ofInt z ≠ []
    unfold Text.ofInt
    split
    · exact List.cons_ne_nil _ _
    · exact Text.ofNat_ne_nil _
  | number x => exact x.text_ne_nil
  | text t => exact of_decide_eq_true h
  | array items => simp [Json.toText, Json.innerForm]
  | object fields => simp [Json.toText, Json.innerForm]

namespace Name

/-- A text that is nothing but the namespace that is removed from it. -/
def IsBare (namespaces : List Text) (t : Text) : Prop :=
  namespaces.find? (Text.startsWith · t) = some t

instance (namespaces : List Text) (t : Text) : Decidable (IsBare namespaces t) :=
  inferInstanceAs (Decidable (_ = _))

theorem localName_eq_nil_iff {namespaces : List Text} {t : Text} :
    localName namespaces t = [] ↔ t = [] ∨ IsBare namespaces t := by
  induction namespaces with
  | nil => simp [localName, IsBare]
  | cons ns rest ih =>
    cases hname : Text.after? ns t with
    | none => simp [localName, IsBare, Text.startsWith, hname, ih]
    | some name =>
      obtain rfl := Text.after?_eq_some_iff.mp hname
      simp [localName, IsBare, Text.startsWith, hname]

theorem localName_suffix (namespaces : List Text) (t : Text) :
    localName namespaces t <:+ t := by
  induction namespaces with
  | nil => exact List.suffix_refl t
  | cons ns rest ih =>
    cases hname : Text.after? ns t with
    | none => simpa [localName, hname] using ih
    | some name =>
      obtain rfl := Text.after?_eq_some_iff.mp hname
      simp [localName, hname]

end Name

namespace JsonLd

variable {namespaces : List Text}

theorem exists_of_mem_entriesOf {nodes : List Node} {entries : List Entry}
    (h : entriesOf namespaces nodes = .ok entries) {e : Entry} (he : e ∈ entries) :
    ∃ node ∈ nodes, entry namespaces node = .ok e := by
  induction nodes generalizing entries with
  | nil =>
    obtain rfl := Except.ok.inj h
    exact absurd he List.not_mem_nil
  | cons node rest ih =>
    rw [entriesOf] at h
    cases hfirst : entry namespaces node with
    | error error => simp [hfirst] at h
    | ok first =>
      cases hrest : entriesOf namespaces rest with
      | error error => simp [hfirst, hrest, Except.map] at h
      | ok more =>
        obtain rfl : first :: more = entries := by simpa [hfirst, hrest, Except.map] using h
        rcases List.mem_cons.mp he with rfl | he
        · exact ⟨node, List.mem_cons_self, hfirst⟩
        · obtain ⟨other, hother, heq⟩ := ih hrest he
          exact ⟨other, List.mem_cons_of_mem _ hother, heq⟩

theorem exists_of_mem_entries {document : Json} {entries : List Entry}
    (h : JsonLd.entries namespaces document = .ok entries) {e : Entry} (he : e ∈ entries) :
    ∃ node ∈ nodes document, isNamed node ∧ entry namespaces node = .ok e := by
  obtain ⟨node, hnode, heq⟩ := exists_of_mem_entriesOf h he
  obtain ⟨hnode, hnamed⟩ := List.mem_filter.mp hnode
  exact ⟨node, hnode, hnamed, heq⟩

def rangeField (node : Node) : Json := firstGiven node (Terms.vocabularyKeys Terms.rangeIncludes)

/-- How an entry is read from a node. -/
structure ReadFrom (namespaces : List Text) (node : Node) (e : Entry) : Prop where
  uri : field idKey node = .text e.uri
  uri_ne_nil : e.uri ≠ []
  id : e.id = Name.localName namespaces e.uri
  label : e.label = literal (firstGiven node (Terms.schemaKeys "label".toList))
  comment : e.comment = literal (firstGiven node (Terms.schemaKeys "comment".toList))
  ranges : e.ranges = references namespaces (rangeField node)

theorem exists_of_entry_eq_ok {node : Node} {e : Entry} (h : entry namespaces node = .ok e) :
    ∃ uri k, field idKey node = .text uri ∧ kind (field typeKey node) = .ok k ∧ e =
      { id := Name.localName namespaces uri
        kind := k
        comment := literal (firstGiven node (Terms.schemaKeys "comment".toList))
        parents := references namespaces (firstGiven node (Terms.schemaKeys "subClassOf".toList))
        domains :=
          references namespaces (firstGiven node (Terms.vocabularyKeys Terms.domainIncludes))
        ranges := references namespaces (rangeField node)
        label := literal (firstGiven node (Terms.schemaKeys "label".toList))
        uri } := by
  unfold entry at h
  split at h
  · rename_i uri huri
    cases hkind : kind (field typeKey node) with
    | error error => simp [hkind, Except.map] at h
    | ok k =>
      rw [hkind] at h
      exact ⟨uri, k, huri, rfl, (Except.ok.inj h).symm⟩
  · cases h

theorem readFrom_of_entry {node : Node} {e : Entry} (hnamed : isNamed node)
    (h : entry namespaces node = .ok e) : ReadFrom namespaces node e := by
  obtain ⟨uri, k, huri, -, rfl⟩ := exists_of_entry_eq_ok h
  rw [isNamed, huri] at hnamed
  exact ⟨huri, of_decide_eq_true hnamed, rfl, rfl, rfl, rfl⟩

theorem mem_references_iff {value : Json} {name : Text} :
    name ∈ references namespaces value ↔ ∃ item ∈ value.toItems, (referenced item).isGiven ∧
      Name.localName namespaces (referenced item).toText = name := by
  simp [references, and_assoc]

theorem nil_mem_references_iff {value : Json} :
    [] ∈ references namespaces value ↔ ∃ item ∈ value.toItems,
      (referenced item).isGiven ∧ Name.IsBare namespaces (referenced item).toText := by
  simp only [mem_references_iff, Name.localName_eq_nil_iff]
  refine exists_congr fun item => and_congr_right fun _ => and_congr_right fun hgiven => ?_
  exact or_iff_right (Json.toText_ne_nil hgiven)

end JsonLd

end VocabBindings
