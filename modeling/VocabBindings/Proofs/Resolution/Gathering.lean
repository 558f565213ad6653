import VocabBindings.Proofs.Resolution.Declared

/-!
What gathering leaves behind. On a context without properties, gathering makes a property map for
exactly the required classes on which some property is declared. A map has the labels of these
declarations, in the order in which they first occur, and under each label the last declaration that
has it.
-/

set_option autoImplicit false

namespace VocabBindings

def Index.LastDeclared (index : Index) (name label : Text) (p : Attribute) : Prop :=
  ∃ before e after, index.declarations name = before ++ e :: after ∧ Context.labelOf e = label ∧
    (∀ later ∈ after, Context.labelOf later ≠ label) ∧
    p = { name := label
          description := Text.withoutMarkup e.comment
          types := e.ranges.map (TypeNaming.target {})
          reference := if e.uri = [] then e.id else e.uri }

/-- The property maps of required classes as the properties of an index make them. -/
structure Gathered (index : Index) (required : List Text)
    (properties : List (Text × List (Text × Attribute))) : Prop where
  nodup : (Keyed.keys properties).Nodup
  owner : ∀ name, name ∈ Keyed.keys properties ↔
    name ∈ required ∧ ∃ e ∈ index.properties, name ∈ e.domains
  labels : ∀ name items, (name, items) ∈ properties →
    Keyed.keys items = ((index.declarations name).map Context.labelOf).eraseDups
  last : ∀ name items, (name, items) ∈ properties →
    ∀ label p, (label, p) ∈ items ↔ index.LastDeclared name label p

namespace Index

variable {index : Index} {m : TypeNaming} {name : Text}

theorem keys_declared :
    Keyed.keys (index.declared m name) =
      ((index.declarations name).map Context.labelOf).eraseDups := by
  rw [declared, Keyed.keys_ofList, List.map_map]
  rfl

theorem mem_declared_iff {label : Text} {p : Attribute} :
    (label, p) ∈ index.declared m name ↔
      ∃ before e after, index.declarations name = before ++ e :: after ∧
        Context.labelOf e = label ∧ (∀ later ∈ after, Context.labelOf later ≠ label) ∧
        Context.attributeOf m e = p := by
  have hnodup : (Keyed.keys (index.declared m name)).Nodup := Keyed.nodup_keys_ofList _
  rw [← Keyed.get?_eq_some_iff_mem hnodup, declared, Keyed.get?_ofList_eq_some_iff]
  constructor
  · rintro ⟨before, after, hsplit, hafter⟩
    obtain ⟨before, tail, hdecl, rfl, htail⟩ := List.map_eq_append_iff.mp hsplit
    obtain ⟨e, after, rfl, he, rfl⟩ := List.map_eq_cons_iff.mp htail
    obtain ⟨hlabel, hp⟩ := Prod.mk.inj he
    exact ⟨before, e, after, hdecl, hlabel,
      fun later hl => hafter _ (List.mem_map_of_mem hl), hp⟩
  · rintro ⟨before, e, after, hdecl, rfl, hafter, rfl⟩
    refine ⟨before.map fun e => (Context.labelOf e, Context.attributeOf m e),
      after.map fun e => (Context.labelOf e, Context.attributeOf m e), by simp [hdecl], ?_⟩
    simpa using hafter

end Index

namespace Context

theorem mem_keys_foldl_store {rs : List Registration} {c : Context} {name : Text} :
    name ∈ Keyed.keys (rs.foldl store c).properties ↔
      (∃ r ∈ rs, r.owner = name) ∨ name ∈ Keyed.keys c.properties := by
  induction rs generalizing c with
  | nil => simp
  | cons r rest ih =>
    rw [List.foldl_cons, ih, store, Keyed.mem_keys_put]
    simp [or_left_comm, or_assoc, eq_comm]

theorem keys_foldl_store_of_mem {rs : List Registration} {c : Context}
    (h : ∀ r ∈ rs, r.owner ∈ Keyed.keys c.properties) :
    Keyed.keys (rs.foldl store c).properties = Keyed.keys c.properties := by
  induction rs generalizing c with
  | nil => rfl
  | cons r rest ih =>
    have hkeys : Keyed.keys (c.store r).properties = Keyed.keys c.properties := by
      rw [store, Keyed.keys_put, if_pos (h r List.mem_cons_self)]
    rw [List.foldl_cons, ih fun s hs => hkeys ▸ h s (List.mem_cons_of_mem _ hs), hkeys]

theorem nodup_keys_foldl_store {rs : List Registration} {c : Context}
    (h : (Keyed.keys c.properties).Nodup) :
    (Keyed.keys (rs.foldl store c).properties).Nodup := by
  induction rs generalizing c with
  | nil => exact h
  | cons r rest ih => exact ih (Keyed.nodup_keys_put h)

theorem mem_keys_gatherWith {c : Context} {m : TypeNaming} {name : Text} :
    name ∈ Keyed.keys (c.gatherWith m).1.properties ↔
      (name ∈ c.required ∧ ∃ e ∈ c.index.properties, name ∈ e.domains) ∨
        name ∈ Keyed.keys c.properties := by
  have hregistered : (∃ r ∈ c.registrations m, r.owner = name) ↔
      name ∈ c.required ∧ ∃ e ∈ c.index.properties, name ∈ e.domains := by
    simp only [registrations, owners, List.mem_flatMap, List.mem_map, List.mem_filter,
      decide_eq_true_eq]
    constructor
    · rintro ⟨_, ⟨e, he, owner, ⟨hd, hr⟩, rfl⟩, rfl⟩
      exact ⟨hr, e, he, hd⟩
    · rintro ⟨hr, e, he, hd⟩
      exact ⟨_, ⟨e, he, name, ⟨hd, hr⟩, rfl⟩, rfl⟩
  rw [← hregistered]
  exact mem_keys_foldl_store

theorem gather_eq (c : Context) :
    ∃ properties suggestions, c.gather = { c with properties, suggestions } := by
  obtain ⟨properties, hstore⟩ :=
    foldl_store_eq (c.registrations { suggestions := c.suggestions }) c
  exact ⟨properties, c.gather.suggestions, by simp only [gather, gatherWith, hstore]⟩

@[simp] theorem index_gather (c : Context) : c.gather.index = c.index := by
  obtain ⟨_, _, heq⟩ := c.gather_eq
  rw [heq]

@[simp] theorem requested_gather (c : Context) : c.gather.requested = c.requested := by
  obtain ⟨_, _, heq⟩ := c.gather_eq
  rw [heq]

@[simp] theorem required_gather (c : Context) : c.gather.required = c.required := by
  obtain ⟨_, _, heq⟩ := c.gather_eq
  rw [heq]

theorem eq_declared_of_mem_gatherWith {c : Context} (m : TypeNaming) (hprop : c.properties = [])
    {items : List (Text × Attribute)} {name : Text}
    (hm : (name, items) ∈ (c.gatherWith m).1.properties) : items = c.index.declared m name := by
  have hnodup : (Keyed.keys (c.gatherWith m).1.properties).Nodup :=
    nodup_keys_foldl_store (by simp [hprop, Keyed.keys])
  have hitems : (c.gatherWith m).1.propertiesOf name = items := by
    rw [propertiesOf, (Keyed.get?_eq_some_iff_mem hnodup).mpr hm, Option.getD_some]
  have hrequired : name ∈ c.required := by
    have hkey := mem_keys_gatherWith.mp (List.mem_map_of_mem hm)
    simpa [hprop, Keyed.keys] using hkey.imp_left And.left
  rw [← hitems, propertiesOf_gatherWith, if_pos hrequired]
  simp [propertiesOf, hprop, Keyed.get?, Index.declared, Keyed.ofList]

/-- Gathering on a context that has neither properties nor suggestions makes exactly the maps of the
required classes with declarations, and leaves index, requests and required classes as they are. -/
theorem gathered_gather (index : Index) (requested required : List Text) :
    let gathered := ({ index, requested, required } : Context).gather
    Gathered index required gathered.properties ∧
      gathered.index = index ∧ gathered.requested = requested ∧ gathered.required = required := by
  intro gathered
  let c : Context := { index, requested, required }
  let m : TypeNaming := { suggestions := c.suggestions }
  have hmaps : ∀ name items, (name, items) ∈ gathered.properties → items = index.declared m name :=
    fun name items hm => eq_declared_of_mem_gatherWith (c := c) m rfl hm
  refine ⟨⟨nodup_keys_foldl_store List.nodup_nil, fun name => ?_, ?_, ?_⟩, ?_⟩
  · have hkeys : name ∈ Keyed.keys gathered.properties ↔ _ := mem_keys_gatherWith (c := c) (m := m)
    rwa [or_iff_left (by simp [c, Keyed.keys])] at hkeys
  · intro name items hm
    rw [hmaps name items hm, Index.keys_declared]
  · intro name items hm label p
    rw [hmaps name items hm, Index.mem_declared_iff]
    constructor
    · rintro ⟨before, e, after, hsplit, rfl, hafter, rfl⟩
      exact ⟨before, e, after, hsplit, rfl, hafter, rfl⟩
    · rintro ⟨before, e, after, hsplit, rfl, hafter, rfl⟩
      exact ⟨before, e, after, hsplit, rfl, hafter, rfl⟩
  · obtain ⟨properties, suggestions, heq⟩ := gather_eq c
    rw [show gathered = _ from heq]
    exact ⟨rfl, rfl, rfl⟩

end Context

end VocabBindings
