import Mathlib.Data.List.Forall2
import VocabBindings.Proofs.Ancestry.Lookup
import VocabBindings.Proofs.Resolution.Gathering
import VocabBindings.Proofs.Resolution.Outcome
import VocabBindings.Proofs.Text.Sorting
import VocabBindings.Proofs.Vocabulary.Remaining

/-!
Replaced declarations. A class is looked up, so an earlier declaration of it has no effect on a
resolution. Properties are gone through, the replaced ones too: a replaced property is stored on its
required domains where no later one has its label, and its value types are suggested. The main
statement compares a resolution with that of what remains of the entries, and says exactly when the
replaced ones leave no trace.
-/

set_option autoImplicit false

namespace VocabBindings

/-- Two outlines that differ at most in the order of their properties. -/
structure ClassOutline.Alike (a b : ClassOutline) : Prop where
  rest : { a with properties := [] } = { b with properties := [] }
  properties : a.properties.Perm b.properties

structure Resolution.Alike (a b : Resolution) : Prop where
  classes : List.Forall₂ ClassOutline.Alike a.classes b.classes
  requested : a.requested = b.requested
  suggestions : a.suggestions = b.suggestions

namespace Index

variable {index : Index} {m : TypeNaming} {name : Text} {e : Entry} {required : List Text}

def LastOfLabel (index : Index) (name : Text) (e : Entry) : Prop :=
  ∃ before after, index.declarations name = before ++ e :: after ∧
    ∀ later ∈ after, Context.labelOf later ≠ Context.labelOf e

/-- A type becomes a suggestion if the naming has it already, or if it is no primitive and a value
type of a property of a required class. -/
def Suggests (index : Index) (m : TypeNaming) (required : List Text) (type : Text) : Prop :=
  (m.primitive? type = none ∧ ∃ e ∈ index.properties, type ∈ e.ranges ∧
    ∃ owner ∈ e.domains, owner ∈ required) ∨ type ∈ m.suggestions.names

/-- The replaced entries leave no trace on required classes: what they make and what they suggest,
the remaining ones make and suggest without them. -/
structure Traceless (index : Index) (m : TypeNaming) (required : List Text) : Prop where
  properties : ∀ name ∈ required, ∀ e, index.LastOfLabel name e → index.IsReplaced e →
    (Context.labelOf e, Context.attributeOf m e) ∈ index.current.declared m name
  suggestions : ∀ e ∈ index.properties, index.IsReplaced e → (∃ owner ∈ e.domains, owner ∈ required) →
    ∀ type ∈ e.ranges, m.primitive? type = none → index.current.Suggests m required type

theorem declarations_eq (index : Index) (name : Text) :
    index.declarations name =
      index.entries.filter fun e => e.kind = .property ∧ name ∈ e.domains := by
  simp [declarations, properties, List.filter_filter, Bool.and_comm]

theorem mem_declared_iff_lastOfLabel {label : Text} {p : Attribute} :
    (label, p) ∈ index.declared m name ↔
      ∃ e, index.LastOfLabel name e ∧ Context.labelOf e = label ∧ Context.attributeOf m e = p := by
  rw [mem_declared_iff]
  constructor
  · rintro ⟨before, e, after, hsplit, rfl, hlast, hp⟩
    exact ⟨e, ⟨before, after, hsplit, hlast⟩, rfl, hp⟩
  · rintro ⟨e, ⟨before, after, hsplit, hlast⟩, rfl, hp⟩
    exact ⟨before, e, after, hsplit, rfl, hlast, hp⟩

theorem lastOfLabel_current (h : index.LastOfLabel name e) (he : ¬ index.IsReplaced e) :
    index.current.LastOfLabel name e := by
  obtain ⟨before, after, hsplit, hlast⟩ := h
  rw [declarations_eq] at hsplit
  obtain ⟨first, second, hentries, -, htail⟩ := List.filter_eq_append_iff.mp hsplit
  obtain ⟨skipped, rest, rfl, -, hdeclared, rfl⟩ := List.filter_eq_cons_iff.mp htail
  rw [← List.append_assoc] at hentries
  -- A copy of the property behind it would be a later one with its label.
  have hcopy : e ∉ rest := fun hm => hlast e (List.mem_filter.mpr ⟨hm, hdeclared⟩) rfl
  have hfound : ¬ (⟨first ++ skipped ++ e :: rest⟩ : Index).IsReplaced e := by rwa [← hentries]
  have hlater : e.id ∉ rest.map Entry.id := not_mem_of_not_isReplaced hfound hcopy
  have hremaining : index.current.declarations name =
      ((remaining index.entries).filter fun e => e.kind = .property ∧ name ∈ e.domains) :=
    declarations_eq ..
  rw [hentries, remaining_append, remaining, if_neg hlater, List.filter_append, List.filter_cons,
    if_pos hdeclared] at hremaining
  exact ⟨_, _, hremaining,
    fun later hl => hlast later (((remaining_sublist rest).filter _).subset hl)⟩

theorem nodup_declared (index : Index) (m : TypeNaming) (name : Text) :
    (index.declared m name).Nodup := (Keyed.nodup_keys_ofList _).of_map

theorem declared_perm_current_iff :
    (index.declared m name).Perm (index.current.declared m name) ↔
      ∀ e, index.LastOfLabel name e → index.IsReplaced e →
        (Context.labelOf e, Context.attributeOf m e) ∈ index.current.declared m name := by
  constructor
  · intro hperm e he _
    exact hperm.mem_iff.mp (mem_declared_iff_lastOfLabel.mpr ⟨e, he, rfl, rfl⟩)
  · intro h
    have hsub : ∀ item ∈ index.declared m name, item ∈ index.current.declared m name := by
      rintro ⟨label, p⟩ hitem
      obtain ⟨e, he, rfl, rfl⟩ := mem_declared_iff_lastOfLabel.mp hitem
      by_cases hr : index.IsReplaced e
      · exact h e he hr
      · exact mem_declared_iff_lastOfLabel.mpr ⟨e, lastOfLabel_current he hr, rfl, rfl⟩
    rw [List.perm_ext_iff_of_nodup (nodup_declared ..) (nodup_declared ..)]
    rintro ⟨label, p⟩
    refine ⟨hsub _, fun hitem => ?_⟩
    -- The label has a property in the larger map too, and that one is in the smaller map.
    have hkey : label ∈ Keyed.keys (index.declared m name) := by
      have hcurrent : label ∈ Keyed.keys (index.current.declared m name) :=
        List.mem_map_of_mem hitem
      rw [keys_declared, List.mem_eraseDups, declarations_eq] at hcurrent ⊢
      exact (((remaining_sublist index.entries).filter _).map _).subset hcurrent
    obtain ⟨⟨_, q⟩, hq, rfl⟩ := List.mem_map.mp hkey
    have hnodup : (Keyed.keys (index.current.declared m name)).Nodup := Keyed.nodup_keys_ofList _
    have hsame := ((Keyed.get?_eq_some_iff_mem hnodup).mpr (hsub _ hq)).symm.trans
      ((Keyed.get?_eq_some_iff_mem hnodup).mpr hitem)
    rwa [← Option.some.inj hsame]

theorem mem_properties_of_current (h : e ∈ index.current.properties) : e ∈ index.properties :=
  ((remaining_sublist index.entries).filter _).subset h

theorem mem_properties_current (h : e ∈ index.properties) (he : ¬ index.IsReplaced e) :
    e ∈ index.current.properties := by
  have hget : index.current.get? e.id = some e := by
    rw [get?_current]
    exact Classical.not_not.mp he
  exact List.mem_filter.mpr ⟨(get?_mem hget).1, (List.mem_filter.mp h).2⟩

theorem suggests_iff_current_iff :
    (∀ type, index.Suggests m required type ↔ index.current.Suggests m required type) ↔
      ∀ e ∈ index.properties, index.IsReplaced e → (∃ owner ∈ e.domains, owner ∈ required) →
        ∀ type ∈ e.ranges, m.primitive? type = none → index.current.Suggests m required type := by
  constructor
  · intro h e he _ howner type htype hprimitive
    exact (h type).mp (.inl ⟨hprimitive, e, he, htype, howner⟩)
  · refine fun h type => ⟨?_, ?_⟩
    · rintro (⟨hprimitive, e, he, htype, howner⟩ | hnaming)
      · by_cases hr : index.IsReplaced e
        · exact h e he hr howner type htype hprimitive
        · exact .inl ⟨hprimitive, e, mem_properties_current he hr, htype, howner⟩
      · exact .inr hnaming
    · rintro (⟨hprimitive, e, he, htype, howner⟩ | hnaming)
      · exact .inl ⟨hprimitive, e, mem_properties_of_current he, htype, howner⟩
      · exact .inr hnaming

end Index

namespace Context

variable {c : Context} {m : TypeNaming}

theorem mem_suggestions_resolution_iff {type : Text} :
    type ∈ (c.resolution m).suggestions ↔ c.index.Suggests m c.required type := by
  rw [mem_suggestions_resolution, mem_gatheredTypes, Index.Suggests, and_comm]

def held (c : Context) : List (Text × Entry) :=
  c.required.filterMap fun name => (c.index.get? name).map (name, ·)

def bareOutline (c : Context) (p : Text × Entry) : ClassOutline where
  name := p.1
  description := Text.withoutMarkup p.2.comment
  parents := p.2.parents.filter (· ≠ [])
  traits := c.index.lineage p.1

theorem classes_resolution_eq (c : Context) (m : TypeNaming) :
    (c.resolution m).classes =
      c.held.map fun p => { c.bareOutline p with properties := c.index.declared m p.1 } := by
  rw [held, List.map_filterMap, resolution]
  refine List.filterMap_congr fun name _ => ?_
  unfold Index.outline?
  cases c.index.get? name <;> rfl

theorem classes_resolution_congr {index : Index} (h : index.get? = c.index.get?) (m : TypeNaming) :
    (({ c with index }).resolution m).classes =
      c.held.map fun p => { c.bareOutline p with properties := index.declared m p.1 } := by
  have hheld : ({ c with index }).held = c.held := by
    unfold held
    rw [h]
  rw [classes_resolution_eq, hheld]
  unfold bareOutline
  simp only [Index.lineage_congr h]

def settled (c : Context) : Context := { c with index := c.index.current }

theorem classes_resolution_settled (c : Context) (m : TypeNaming) :
    (c.settled.resolution m).classes =
      c.held.map fun p => { c.bareOutline p with properties := c.index.current.declared m p.1 } :=
  classes_resolution_congr c.index.get?_current m

theorem mem_held_of_mem_required (hheld : ∀ name ∈ c.required, c.index.contains name) {name : Text}
    (hn : name ∈ c.required) : ∃ p ∈ c.held, p.1 = name := by
  obtain ⟨e, he⟩ := Option.isSome_iff_exists.mp (hheld name hn)
  exact ⟨(name, e), List.mem_filterMap.mpr ⟨name, hn, by rw [he]; rfl⟩, rfl⟩

theorem mem_required_of_mem_held {p : Text × Entry} (hp : p ∈ c.held) : p.1 ∈ c.required := by
  obtain ⟨name, hn, hp⟩ := List.mem_filterMap.mp hp
  obtain ⟨e, -, rfl⟩ := Option.map_eq_some_iff.mp hp
  exact hn

theorem alike_settled_iff (hheld : ∀ name ∈ c.required, c.index.contains name) :
    (c.resolution m).Alike (c.settled.resolution m) ↔ c.index.Traceless m c.required := by
  have hclasses : List.Forall₂ ClassOutline.Alike (c.resolution m).classes
      (c.settled.resolution m).classes ↔
      ∀ name ∈ c.required, (c.index.declared m name).Perm (c.index.current.declared m name) := by
    rw [classes_resolution_eq, classes_resolution_settled, List.forall₂_map_left_iff,
      List.forall₂_map_right_iff, List.forall₂_same]
    constructor
    · intro h name hn
      obtain ⟨p, hp, rfl⟩ := mem_held_of_mem_required hheld hn
      exact (h p hp).properties
    · exact fun h p hp => ⟨rfl, h p.1 (mem_required_of_mem_held hp)⟩
  have hsuggestions : (c.resolution m).suggestions = (c.settled.resolution m).suggestions ↔
      ∀ type, c.index.Suggests m c.required type ↔ c.index.current.Suggests m c.required type := by
    refine NameSet.names_eq_iff.trans (forall_congr' fun type => ?_)
    exact iff_congr mem_suggestions_resolution_iff mem_suggestions_resolution_iff
  constructor
  · intro h
    exact ⟨fun name hn => Index.declared_perm_current_iff.mp (hclasses.mp h.classes name hn),
      Index.suggests_iff_current_iff.mp (hsuggestions.mp h.suggestions)⟩
  · intro h
    refine ⟨hclasses.mpr fun name hn => ?_, rfl, ?_⟩
    · exact Index.declared_perm_current_iff.mpr (h.properties name hn)
    · exact hsuggestions.mpr (Index.suggests_iff_current_iff.mpr h.suggestions)

end Context

/-- A list of entries that is accepted is resolved like what remains of it: with the same error, or
with the same classes in the same order, which agree in all but their properties, and the same
requests. Their properties, order aside, and the suggestions are the same exactly if the replaced
entries leave no trace on these classes. -/
theorem resolveClasses_remaining {entries : List Entry} {index : Index}
    (h : Index.ofEntries entries = .ok index) (schemas : List Text) (m : TypeNaming) :
    Index.ofEntries (Index.remaining entries) = .ok index.current ∧
      (∀ e, resolveClasses entries schemas m = .error e ↔
        resolveClasses (Index.remaining entries) schemas m = .error e) ∧
      ∀ r naming, resolveClasses entries schemas m = .ok (r, naming) →
        ∃ s naming', resolveClasses (Index.remaining entries) schemas m = .ok (s, naming') ∧
          s.requested = r.requested ∧
          (s.classes.map fun c => { c with properties := [] }) =
            (r.classes.map fun c => { c with properties := [] }) ∧
          (r.Alike s ↔ index.Traceless m (r.classes.map ClassOutline.name)) := by
  have hcurrent := Index.ofEntries_remaining h
  have hrun := Context.requireAll_congr (c := { index }) index.get?_current.symm schemas
  refine ⟨hcurrent, ?_, ?_⟩
  · intro e
    rw [resolveClasses_eq, resolveClasses_eq, h, hcurrent]
    dsimp only
    rw [show ({ index := index.current : Context }).requireAll schemas = _ from hrun]
    rcases ({ index : Context }).requireAll schemas with ⟨c, _ | missing⟩
    · simp
    · simp
  · intro r naming hr
    obtain ⟨index', c, hi, hc, rfl⟩ := exists_of_resolveClasses_eq_ok hr
    obtain rfl : index = index' := Except.ok.inj (h.symm.trans hi)
    have ha := Context.answers_of_requireAll hc
    have hheld : ∀ name ∈ c.required, c.index.contains name := ha.index_eq ▸ ha.held
    rw [hc] at hrun
    have hsettled : ({ index := index.current : Context }).requireAll schemas =
        (c.settled, none) := by
      rw [Context.settled, ha.index_eq]
      exact hrun
    refine ⟨_, _, resolveClasses_eq_ok hcurrent hsettled, rfl, ?_, ?_⟩
    · rw [Context.classes_resolution_settled, Context.classes_resolution_eq, List.map_map,
        List.map_map]
      rfl
    · rw [Context.names_classes_resolution hheld, Context.alike_settled_iff hheld, ha.index_eq]

section

def bareProperty (id : String) (domains ranges : List String) : Entry where
  id := id.toList
  kind := .property
  domains := domains.map String.toList
  ranges := ranges.map String.toList

def revised : List Entry :=
  [Context.bareClass "Book" ["Ghost"], bareProperty "title" ["Book"] ["Number"],
    Context.bareClass "Work" [], Context.bareClass "Book" ["Work"],
    bareProperty "title" ["Book", "Work"] ["Text"]]

theorem resolveClasses_remaining_revised :
    ∃ r s naming naming', resolveClasses revised ["Book".toList] {} = .ok (r, naming) ∧
      resolveClasses (Index.remaining revised) ["Book".toList] {} = .ok (s, naming') ∧
      r.classes.map ClassOutline.name = ["Book", "Work"].map String.toList ∧ r.Alike s := by
  let c : Context :=
    { index := ⟨revised⟩
      requested := ["Book".toList]
      required := ["Book", "Work"].map String.toList }
  have hi : Index.ofEntries revised = .ok ⟨revised⟩ := by cbv
  have hc : ({ index := ⟨revised⟩ : Context }).requireAll ["Book".toList] = (c, none) := by cbv
  have hr := resolveClasses_eq_ok (m := {}) hi hc
  obtain ⟨-, -, hok⟩ := resolveClasses_remaining hi ["Book".toList] {}
  obtain ⟨s, naming', hs, -, -, halike⟩ := hok _ _ hr
  refine ⟨_, s, _, naming', hr, hs, by decide, halike.mpr ⟨fun name hn => ?_, ?_⟩⟩
  · have hsame : ∀ name ∈ (c.resolution {}).classes.map ClassOutline.name,
        (⟨revised⟩ : Index).declared {} name = (⟨revised⟩ : Index).current.declared {} name := by
      decide
    exact Index.declared_perm_current_iff.mp (hsame name hn ▸ .rfl)
  · have hprimitive : ∀ e ∈ (⟨revised⟩ : Index).properties, ∀ type ∈ e.ranges,
        ({} : TypeNaming).primitive? type ≠ none := by
      decide
    exact fun e he _ _ type htype hnone => absurd hnone (hprimitive e he type htype)

def moved : List Entry :=
  [Context.bareClass "A" [], bareProperty "p" ["A"] ["Text"], bareProperty "p" ["B"] ["Text"]]

/-- A replaced property may be stored on a class that it is no longer declared on. -/
theorem exists_replaced_stored :
    Index.ofEntries moved = .ok ⟨moved⟩ ∧
      ∃ r s naming naming', resolveClasses moved ["A".toList] {} = .ok (r, naming) ∧
        resolveClasses (Index.remaining moved) ["A".toList] {} = .ok (s, naming') ∧
        (r.classes.map fun c => Keyed.keys c.properties) = [["p".toList]] ∧
        (s.classes.map fun c => Keyed.keys c.properties) = [[]] := by
  let c : Context :=
    { index := ⟨moved⟩
      requested := ["A".toList]
      required := ["A".toList] }
  have hi : Index.ofEntries moved = .ok ⟨moved⟩ := by cbv
  have hi' : Index.ofEntries (Index.remaining moved) = .ok c.settled.index := by cbv
  have hc : ({ index := ⟨moved⟩ : Context }).requireAll ["A".toList] = (c, none) := by cbv
  have hc' : ({ index := c.settled.index : Context }).requireAll ["A".toList] =
      (c.settled, none) := by
    cbv
  exact ⟨hi, _, _, _, _, resolveClasses_eq_ok hi hc, resolveClasses_eq_ok hi' hc', by decide,
    by decide⟩

end

end VocabBindings
