import VocabBindings.Proofs.Resolution.Replaced

/-!
Suggestions. The suggestions of a resolution are those that its naming brings along and the value
types without a primitive of all properties with a required domain, also of properties that a later
one of the same label overwrites. They are listed in ascending order, and the naming comes back with
the same ones.
-/

set_option autoImplicit false

namespace VocabBindings

namespace TypeNaming

variable {m : TypeNaming} {type : Text}

theorem primitive?_eq_none_iff :
    m.primitive? type = none ↔
      type ∉ Keyed.keys builtIn ∧ ∀ target, Keyed.get? type m.overrides ≠ some (some target) := by
  unfold primitive?
  cases hb : Keyed.get? type builtIn with
  | some target =>
    have hkey : type ∈ Keyed.keys builtIn := List.mem_map_of_mem (Keyed.mem_of_get? hb)
    simp [hkey]
  | none =>
    rw [← Keyed.get?_eq_none_iff]
    simp only [hb, true_and]
    rcases Keyed.get? type m.overrides with _ | _ | target <;> simp

theorem target_of_primitive?_eq_none (h : m.primitive? type = none) : m.target type = type := by
  simp [target, h]

end TypeNaming

/-- A type that is a value type of a property with one of the classes among its domains, and that is
neither built in nor overridden with a target. -/
def Referenced (entries : List Entry) (m : TypeNaming) (classes : List Text) (type : Text) : Prop :=
  type ∉ Keyed.keys TypeNaming.builtIn ∧
    (∀ target, Keyed.get? type m.overrides ≠ some (some target)) ∧
    ∃ e ∈ entries, e.kind = .property ∧ type ∈ e.ranges ∧ ∃ owner ∈ e.domains, owner ∈ classes

namespace Context

variable {c : Context} {m : TypeNaming} {entries : List Entry}

theorem mem_suggestions_resolution_iff_referenced (hc : c.index = ⟨entries⟩) {type : Text} :
    type ∈ (c.resolution m).suggestions ↔
      type ∈ m.suggestions.names ∨ Referenced entries m c.required type := by
  rw [mem_suggestions_resolution_iff, Index.Suggests, or_comm, TypeNaming.primitive?_eq_none_iff,
    hc, Referenced]
  simp only [Index.properties, List.mem_filter, decide_eq_true_eq, and_assoc]

theorem names_suggest_gatheredTypes (c : Context) (m : TypeNaming) :
    (m.suggest c.gatheredTypes).suggestions.names = (c.resolution m).suggestions :=
  NameSet.names_eq_iff.mpr fun _ => NameSet.mem_names_ofList.symm

theorem exists_of_mem_properties (hc : c.index = ⟨entries⟩) {outline : ClassOutline}
    (ho : outline ∈ (c.resolution m).classes) {p : Text × Attribute} (hp : p ∈ outline.properties) :
    ∃ e ∈ entries, e.kind = .property ∧ outline.name ∈ e.domains ∧
      p = (labelOf e, attributeOf m e) := by
  obtain ⟨name, -, ho⟩ := mem_classes_resolution.mp ho
  obtain ⟨_, -, rfl⟩ := Option.map_eq_some_iff.mp ho
  obtain ⟨before, e, after, hsplit, hlabel, -, hattribute⟩ := Index.mem_declared_iff.mp hp
  have he : e ∈ c.index.declarations name := by simp [hsplit]
  rw [hc, Index.declarations_eq, List.mem_filter, decide_eq_true_eq] at he
  exact ⟨e, he.1, he.2.1, he.2.2, Prod.ext hlabel.symm hattribute.symm⟩

end Context

/-- What a resolution suggests, given the naming that it started with. -/
structure Resolution.Suggested (r : Resolution) (entries : List Entry) (m : TypeNaming) : Prop where
  ascending : r.suggestions.Pairwise (· < ·)
  mem_iff : ∀ type, type ∈ r.suggestions ↔ type ∈ m.suggestions.names ∨
    Referenced entries m (r.classes.map ClassOutline.name) type
  remaining_sublist : r.remainingSuggestions.Sublist r.suggestions
  mem_remaining_iff : ∀ type, type ∈ r.remainingSuggestions ↔
    type ∈ r.suggestions ∧ type ∉ r.requested
  /-- A property of a class is an entry with the targets of its value types. Those that have no
  primitive are their own targets, and they are suggested. -/
  properties : ∀ outline ∈ r.classes, ∀ p ∈ outline.properties,
    ∃ e ∈ entries, e.kind = .property ∧ outline.name ∈ e.domains ∧ p.1 = Context.labelOf e ∧
      p.2.types = e.ranges.map m.target ∧
      ∀ type ∈ e.ranges, m.primitive? type = none → type ∈ p.2.types ∧ type ∈ r.suggestions

namespace Context

variable {c : Context} {entries : List Entry}

theorem suggested_resolution (hc : c.index = ⟨entries⟩)
    (hheld : ∀ name ∈ c.required, c.index.contains name) (m : TypeNaming) :
    (c.resolution m).Suggested entries m := by
  have hmem : ∀ type, type ∈ (c.resolution m).suggestions ↔
      type ∈ m.suggestions.names ∨ Referenced entries m c.required type :=
    fun _ => mem_suggestions_resolution_iff_referenced hc
  refine ⟨NameSet.ascending _, ?_, List.filter_sublist, ?_, ?_⟩
  · rw [names_classes_resolution hheld]
    exact hmem
  · intro type
    rw [Resolution.remainingSuggestions, List.mem_filter, decide_eq_true_eq]
  · intro outline ho p hp
    obtain ⟨e, he, hkind, hdomain, rfl⟩ := exists_of_mem_properties hc ho hp
    refine ⟨e, he, hkind, hdomain, rfl, rfl, fun type htype hnone => ⟨?_, ?_⟩⟩
    · exact List.mem_map.mpr ⟨type, htype, TypeNaming.target_of_primitive?_eq_none hnone⟩
    · have hrequired : outline.name ∈ c.required := by
        rw [← names_classes_resolution (m := m) hheld]
        exact List.mem_map_of_mem ho
      obtain ⟨hbuiltIn, hoverride⟩ := TypeNaming.primitive?_eq_none_iff.mp hnone
      exact (hmem type).mpr
        (.inr ⟨hbuiltIn, hoverride, e, he, hkind, htype, outline.name, hdomain, hrequired⟩)

end Context

/-- A resolution requires what the search of the ancestry discovers. Its suggestions are, in
ascending order, those of its naming and the referenced types of the required classes, and the
naming has the same ones afterwards. If gathering is given no naming, they are the referenced types
alone. -/
theorem suggestions_of_resolveClasses {entries : List Entry} {schemas : List Text}
    {m naming : TypeNaming} {r : Resolution}
    (h : resolveClasses entries schemas m = .ok (r, naming)) :
    r.classes.map ClassOutline.name = (⟨entries⟩ : Index).discovered schemas ∧
      r.Suggested entries m ∧
      naming.suggestions.names = r.suggestions ∧ naming.overrides = m.overrides ∧
      ∃ c s, ({ index := ⟨entries⟩ : Context }).requireAll schemas = (c, none) ∧
        c.gather.result = .ok s ∧
        s.classes.map ClassOutline.name = r.classes.map ClassOutline.name ∧
        s.Suggested entries {} ∧
        ∀ type, type ∈ s.suggestions ↔
          Referenced entries {} (s.classes.map ClassOutline.name) type := by
  obtain ⟨index, c, hi, hc, -⟩ := exists_of_resolveClasses_eq_ok h
  obtain ⟨rfl, -⟩ := Index.ofEntries_eq_ok_iff.mp hi
  have ha := Context.answers_of_requireAll hc
  have hheld : ∀ name ∈ c.required, c.index.contains name := ha.index_eq ▸ ha.held
  have hnames : ∀ m, (c.resolution m).classes.map ClassOutline.name = c.required :=
    fun _ => Context.names_classes_resolution hheld
  have hsuggested := Context.suggested_resolution ha.index_eq hheld
  have hgather : c.gather.result = .ok (c.resolution {}) := by
    rw [Context.gather, ha.suggestions]
    exact Context.result_gatherWith ha.properties ha.suggestions hheld
  rw [resolveClasses_eq_ok hi hc] at h
  obtain ⟨rfl, rfl⟩ := Prod.mk.inj (Except.ok.inj h)
  refine ⟨(hnames m).trans ha.required, hsuggested m, c.names_suggest_gatheredTypes m, rfl,
    c, _, hc, hgather, (hnames _).trans (hnames m).symm, hsuggested {}, fun type => ?_⟩
  rw [(hsuggested {}).mem_iff]
  exact or_iff_right List.not_mem_nil

def shelf : List Entry :=
  [Context.bareClass "Book" ["Work"], Context.bareClass "Work" [],
    bareProperty "author" ["Ghost", "Book"] ["Person", "Isbn"],
    bareProperty "owner" ["Library"] ["Town"],
    { bareProperty "writer" ["Book", "Work"] ["Text", "Work", "Place"] with
      label := "author".toList }]

theorem suggestions_of_resolveClasses_shelf :
    let m : TypeNaming :=
      { overrides := [("Isbn".toList, some "int".toList), ("Place".toList, none)]
        suggestions := .ofList ["Zoo".toList] }
    ∃ r naming, resolveClasses shelf ["Work".toList, "Book".toList] m = .ok (r, naming) ∧
      r.suggestions = ["Person", "Place", "Work", "Zoo"].map String.toList ∧
      naming.suggestions.names = r.suggestions ∧
      r.remainingSuggestions = ["Person", "Place", "Zoo"].map String.toList := by
  intro m
  let c : Context :=
    { index := ⟨shelf⟩
      requested := ["Work", "Book"].map String.toList
      required := ["Work", "Book"].map String.toList }
  have hi : Index.ofEntries shelf = .ok ⟨shelf⟩ := by cbv
  have hc : ({ index := ⟨shelf⟩ : Context }).requireAll ["Work".toList, "Book".toList] =
      (c, none) := by
    cbv
  have hr := resolveClasses_eq_ok (m := m) hi hc
  obtain ⟨-, -, hnaming, -⟩ := suggestions_of_resolveClasses hr
  exact ⟨_, _, hr, by decide, hnaming, by decide⟩

end VocabBindings
