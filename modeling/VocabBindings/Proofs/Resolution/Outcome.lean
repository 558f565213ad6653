import Mathlib.Data.List.Basic
import VocabBindings.Proofs.Ancestry.Requests
import VocabBindings.Proofs.Resolution.Declared
import VocabBindings.Resolve.Run

/-!
The outcome of a resolution. A resolution fails only for an identifier with two kinds or for a class
that is missing, and otherwise every part of its result is a function of the index and of the
requests: the outline of a class is the same whatever else is resolved with it.
-/

set_option autoImplicit false

namespace VocabBindings

namespace Index

def outline? (index : Index) (m : TypeNaming) (name : Text) : Option ClassOutline :=
  (index.get? name).map fun e =>
    { name
      description := Text.withoutMarkup e.comment
      parents := e.parents.filter (· ≠ [])
      properties := index.declared m name
      traits := index.lineage name }

theorem name_of_outline? {index : Index} {m : TypeNaming} {name : Text} {outline : ClassOutline}
    (h : index.outline? m name = some outline) : outline.name = name := by
  obtain ⟨e, -, rfl⟩ := Option.map_eq_some_iff.mp h
  rfl

theorem traits_of_outline? {index : Index} {m : TypeNaming} {name : Text} {outline : ClassOutline}
    (h : index.outline? m name = some outline) : outline.traits = index.lineage name := by
  obtain ⟨e, -, rfl⟩ := Option.map_eq_some_iff.mp h
  rfl

theorem isSome_outline? (index : Index) (m : TypeNaming) (name : Text) :
    (index.outline? m name).isSome = index.contains name := by
  simp [outline?, contains]

end Index

/-- A resolution is closed if a class stands behind every name in it that is looked up. -/
structure Resolution.Closed (r : Resolution) : Prop where
  requested : ∀ name ∈ r.requested, (r.class? name).isSome
  traits : ∀ outline ∈ r.classes, ∀ name ∈ outline.traits, (r.class? name).isSome

namespace Context

variable {c : Context} {m : TypeNaming}

def resolution (c : Context) (m : TypeNaming) : Resolution where
  classes := c.required.filterMap (c.index.outline? m)
  requested := c.requested
  suggestions := (NameSet.ofList (m.suggest c.gatheredTypes).suggestions.names).names

theorem outlines_eq {names : List Text} (h : ∀ name ∈ names, c.index.contains name) :
    c.outlines names =
      .ok (names.filterMap fun name => (c.index.get? name).map (c.outline name)) := by
  induction names with
  | nil => rfl
  | cons name rest ih =>
    obtain ⟨e, he⟩ := Option.isSome_iff_exists.mp (h name List.mem_cons_self)
    have hrest := ih fun n hn => h n (List.mem_cons_of_mem _ hn)
    rw [outlines, he]
    simp [hrest, he, Except.map]

theorem result_gatherWith (hprop : c.properties = []) (hsug : c.suggestions = .empty)
    (hheld : ∀ name ∈ c.required, c.index.contains name) :
    (c.gatherWith m).1.result = .ok (c.resolution m) := by
  obtain ⟨properties, hstore⟩ := foldl_store_eq (c.registrations m) c
  have hgather : (c.gatherWith m).1 =
      { c with
        properties
        suggestions := c.suggestions.insertAll (m.suggest c.gatheredTypes).suggestions.names } := by
    simp [gatherWith, hstore]
  -- The outlines are drawn after the gathering, but only the property maps have changed.
  have houtline : ∀ name ∈ c.required,
      ((c.index.get? name).map ((c.gatherWith m).1.outline name)) = c.index.outline? m name := by
    intro name hn
    have hdecl : (c.gatherWith m).1.propertiesOf name = c.index.declared m name := by
      rw [propertiesOf_gatherWith, if_pos hn]
      simp [propertiesOf, hprop, Keyed.get?, Index.declared, Keyed.ofList]
    unfold Index.outline? outline
    rw [hdecl, hgather]
  have hindex : (c.gatherWith m).1.index = c.index := by rw [hgather]
  have hrequired : (c.gatherWith m).1.required = c.required := by rw [hgather]
  rw [result, outlines_eq (by rw [hrequired, hindex]; exact hheld), hrequired, hindex,
    List.filterMap_congr houtline, hgather, hsug]
  rfl

theorem mem_classes_resolution {outline : ClassOutline} :
    outline ∈ (c.resolution m).classes ↔
      ∃ name ∈ c.required, c.index.outline? m name = some outline := List.mem_filterMap

theorem names_classes_resolution (hheld : ∀ name ∈ c.required, c.index.contains name) :
    (c.resolution m).classes.map ClassOutline.name = c.required := by
  have hself : ∀ name ∈ c.required,
      (c.index.outline? m name).map ClassOutline.name = some name := by
    intro name hn
    obtain ⟨outline, ho⟩ := Option.isSome_iff_exists.mp
      ((c.index.isSome_outline? m name).trans (hheld name hn))
    rw [ho, Option.map_some, Index.name_of_outline? ho]
  rw [resolution, List.map_filterMap, List.filterMap_congr hself, List.filterMap_some]

theorem class?_resolution (name : Text) :
    (c.resolution m).class? name = if name ∈ c.required then c.index.outline? m name else none := by
  unfold Resolution.class?
  cases hf : (c.resolution m).classes.reverse.find? (·.name = name) with
  | some outline =>
    have hname : outline.name = name := by simpa using List.find?_some hf
    obtain ⟨n, hn, ho⟩ := mem_classes_resolution.mp
      (List.mem_reverse.mp (List.mem_of_find?_eq_some hf))
    have hsame : n = name := by rw [← Index.name_of_outline? ho, hname]
    rw [if_pos (hsame ▸ hn), ← hsame, ho]
  | none =>
    split
    · rename_i hn
      cases ho : c.index.outline? m name with
      | none => rfl
      | some outline =>
        have hm := List.mem_reverse.mpr (mem_classes_resolution.mpr ⟨name, hn, ho⟩)
        simpa [Index.name_of_outline? ho] using List.find?_eq_none.mp hf outline hm
    · rfl

theorem isSome_class?_resolution (hheld : ∀ name ∈ c.required, c.index.contains name) {name : Text}
    (hn : name ∈ c.required) : ((c.resolution m).class? name).isSome := by
  rw [class?_resolution, if_pos hn, Index.isSome_outline?]
  exact hheld name hn

theorem mem_suggestions_resolution {type : Text} :
    type ∈ (c.resolution m).suggestions ↔
      (type ∈ c.gatheredTypes ∧ m.primitive? type = none) ∨ type ∈ m.suggestions.names := by
  simp [resolution, NameSet.ofList, NameSet.mem_names_insertAll, NameSet.empty, TypeNaming.suggest,
    TypeNaming.referenced]

namespace Answers

variable {index : Index} {names : List Text}

theorem required_of_requested (h : Answers index names c) {name : Text} (hn : name ∈ c.requested) :
    name ∈ c.required := by
  rw [h.requested] at hn
  rw [h.required]
  exact Index.mem_discovered_of_mem (mem_noted.mp hn).1 (mem_noted.mp hn).2

theorem required_of_mem_traits (h : Answers index names c) {outline : ClassOutline}
    (ho : outline ∈ (c.resolution m).classes) {name : Text} (hn : name ∈ outline.traits) :
    name ∈ c.required := by
  obtain ⟨owner, howner, ho⟩ := mem_classes_resolution.mp ho
  rw [Index.traits_of_outline? ho, h.index_eq] at hn
  rw [h.required] at howner ⊢
  exact Index.lineage_subset_discovered howner hn

theorem name_ne_nil_of_mem_classes (h : Answers index names c) {outline : ClassOutline}
    (ho : outline ∈ (c.resolution m).classes) : outline.name ≠ [] := by
  obtain ⟨name, hname, houtline⟩ := mem_classes_resolution.mp ho
  rw [h.required] at hname
  rw [Index.name_of_outline? houtline]
  exact (Index.mem_discovered_iff.mp hname).1

theorem exists_of_mem_classes (h : Answers index names c) {outline : ClassOutline}
    (ho : outline ∈ (c.resolution m).classes) :
    ∃ e ∈ index.entries, e.id = outline.name ∧
      outline.description = Text.withoutMarkup e.comment ∧
      ∀ parent ∈ outline.parents, ∃ p ∈ index.entries, p.id = parent := by
  obtain ⟨name, hname, ho⟩ := mem_classes_resolution.mp ho
  obtain ⟨e, he, rfl⟩ := Option.map_eq_some_iff.mp ho
  rw [h.index_eq] at he
  obtain ⟨hmem, hid⟩ := Index.get?_mem he
  refine ⟨e, hmem, hid, rfl, fun parent hparent => ?_⟩
  obtain ⟨hparent, hne⟩ := List.mem_filter.mp hparent
  rw [h.required] at hname
  have hinherits : index.Inherits name parent := by
    refine ⟨(Index.mem_discovered_iff.mp hname).1, of_decide_eq_true hne, ?_⟩
    rwa [Index.HasParent, Index.parentsOf_eq he]
  have hheld := h.held parent (h.required ▸ Index.mem_discovered_of_inherits hname hinherits)
  obtain ⟨p, hp⟩ := Option.isSome_iff_exists.mp hheld
  exact ⟨p, Index.get?_mem hp⟩

theorem closed_resolution (h : Answers index names c) : (c.resolution m).Closed := by
  have hheld : ∀ name ∈ c.required, c.index.contains name := h.index_eq ▸ h.held
  constructor
  · intro name hn
    exact isSome_class?_resolution hheld (h.required_of_requested hn)
  · intro outline ho name hn
    exact isSome_class?_resolution hheld (h.required_of_mem_traits ho hn)

end Answers

end Context

/-- A resolution fails for an identifier with two kinds and for a missing class, and for nothing
else. -/
theorem resolveClasses_eq (entries : List Entry) (schemas : List Text) (m : TypeNaming) :
    resolveClasses entries schemas m =
      match Index.ofEntries entries with
      | .error d => .error (.duplicate d)
      | .ok index =>
        match ({ index : Context }).requireAll schemas with
        | (_, some missing) => .error (.missing missing)
        | (c, none) => .ok (c.resolution m, m.suggest c.gatheredTypes) := by
  unfold resolveClasses
  cases Index.ofEntries entries with
  | error d => rfl
  | ok index =>
    dsimp only
    rcases hrun : ({ index : Context }).requireAll schemas with ⟨c, _ | missing⟩
    · have ha := Context.answers_of_requireAll hrun
      simp only [Context.result_gatherWith ha.properties ha.suggestions (ha.index_eq ▸ ha.held)]
      rfl
    · rfl

section

variable {entries : List Entry} {schemas : List Text} {m naming : TypeNaming} {index : Index}
  {c : Context} {r : Resolution}

theorem resolveClasses_eq_ok (hi : Index.ofEntries entries = .ok index)
    (hc : ({ index : Context }).requireAll schemas = (c, none)) :
    resolveClasses entries schemas m = .ok (c.resolution m, m.suggest c.gatheredTypes) := by
  simp only [resolveClasses_eq, hi, hc]

theorem exists_of_resolveClasses_eq_ok (h : resolveClasses entries schemas m = .ok (r, naming)) :
    ∃ index c, Index.ofEntries entries = .ok index ∧
      ({ index : Context }).requireAll schemas = (c, none) ∧ r = c.resolution m := by
  rw [resolveClasses_eq] at h
  cases hi : Index.ofEntries entries with
  | error d => simp [hi] at h
  | ok index =>
    rcases hc : ({ index : Context }).requireAll schemas with ⟨c, _ | missing⟩
    · simp only [hi, hc, Except.ok.injEq, Prod.mk.injEq] at h
      exact ⟨index, c, rfl, hc, h.1.symm⟩
    · simp [hi, hc] at h

end

end VocabBindings
