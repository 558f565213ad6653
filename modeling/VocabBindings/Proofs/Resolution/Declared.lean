import VocabBindings.Resolve.Context

/-!
The properties of one class. Gathering runs once over all properties and all their domains, but what
it stores on a required class depends on the index alone: the properties that have this class among
their domains, in order, the last one of each label.
-/

set_option autoImplicit false

namespace VocabBindings

namespace Index

def declarations (index : Index) (name : Text) : List Entry :=
  index.properties.filter (name ∈ ·.domains)

def declared (index : Index) (m : TypeNaming) (name : Text) : List (Text × Attribute) :=
  Keyed.ofList ((index.declarations name).map fun e => (Context.labelOf e, Context.attributeOf m e))

end Index

namespace Context

theorem foldl_store_eq (rs : List Registration) (c : Context) :
    ∃ properties, rs.foldl store c = { c with properties } := by
  induction rs generalizing c with
  | nil => exact ⟨c.properties, rfl⟩
  | cons r rest ih => exact ih (c.store r)

theorem propertiesOf_store (c : Context) (r : Registration) (name : Text) :
    (c.store r).propertiesOf name =
      if r.owner = name then Keyed.put r.label r.property (c.propertiesOf name)
      else c.propertiesOf name := by
  by_cases h : r.owner = name
  · subst h
    simp [propertiesOf, store, Keyed.get?_put]
  · simp [propertiesOf, store, Keyed.get?_put, h]

/-- A property that is stored on several classes is stored once on each of them, even if one of them
is given repeatedly. -/
theorem propertiesOf_foldl_owners (owners : List Text) (label : Text) (property : Attribute)
    (c : Context) (name : Text) :
    ((owners.map fun owner => ⟨owner, label, property⟩).foldl store c).propertiesOf name =
      if name ∈ owners then Keyed.put label property (c.propertiesOf name)
      else c.propertiesOf name := by
  induction owners generalizing c with
  | nil => simp
  | cons owner rest ih =>
    rw [List.map_cons, List.foldl_cons, ih, propertiesOf_store]
    by_cases ho : owner = name
    · subst ho
      by_cases hr : owner ∈ rest <;> simp [hr, Keyed.put_put]
    · simp [ho, Ne.symm ho]

theorem propertiesOf_foldl_properties (c : Context) (m : TypeNaming) (name : Text)
    (properties : List Entry) (into : Context) :
    ((properties.flatMap fun e =>
        (c.owners e).map fun owner => ⟨owner, labelOf e, attributeOf m e⟩).foldl
      store into).propertiesOf name =
      if name ∈ c.required then
        ((properties.filter (name ∈ ·.domains)).map fun e => (labelOf e, attributeOf m e)).foldl
          (fun items p => Keyed.put p.1 p.2 items) (into.propertiesOf name)
      else into.propertiesOf name := by
  -- The context stored into changes from property to property, the required classes do not.
  induction properties generalizing into with
  | nil => simp
  | cons e rest ih =>
    rw [List.flatMap_cons, List.foldl_append, ih, propertiesOf_foldl_owners]
    by_cases hr : name ∈ c.required
    · by_cases hd : name ∈ e.domains <;> simp [owners, hr, hd]
    · simp [owners, hr]

/-- What is stored on a required class are its declarations, on top of what was there before. On
every other class nothing is stored. -/
theorem propertiesOf_gatherWith (c : Context) (m : TypeNaming) (name : Text) :
    (c.gatherWith m).1.propertiesOf name =
      if name ∈ c.required then
        ((c.index.declarations name).map fun e => (labelOf e, attributeOf m e)).foldl
          (fun items p => Keyed.put p.1 p.2 items) (c.propertiesOf name)
      else c.propertiesOf name :=
  propertiesOf_foldl_properties c m name c.index.properties c

theorem mem_gatheredTypes {c : Context} {type : Text} :
    type ∈ c.gatheredTypes ↔
      ∃ e ∈ c.index.properties, type ∈ e.ranges ∧ ∃ owner ∈ e.domains, owner ∈ c.required := by
  simp only [gatheredTypes, owners, List.mem_flatMap, List.mem_filter, ne_eq, decide_not,
    Bool.not_eq_eq_eq_not, Bool.not_true, decide_eq_false_iff_not, List.filter_eq_nil_iff]
  constructor
  · rintro ⟨e, ⟨he, ho⟩, ht⟩
    simp only [decide_eq_true_eq, Classical.not_forall, Classical.not_not, exists_prop] at ho
    exact ⟨e, he, ht, ho⟩
  · rintro ⟨e, he, ht, owner, hd, hr⟩
    exact ⟨e, ⟨he, fun hall => hall owner hd (decide_eq_true hr)⟩, ht⟩

end Context

end VocabBindings
