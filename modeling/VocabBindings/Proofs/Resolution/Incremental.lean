import VocabBindings.Proofs.Ancestry.Calls
import VocabBindings.Proofs.Resolution.Reordered

/-!
Gathering between requests. What an earlier gathering left on a class is what a later one stores
there again, label by label, and a class that is required later starts from nothing. So after a last
gathering it does not matter where others came before: every class has the property map, and the
context has the suggestions, that this one gathering alone would have made.
-/

set_option autoImplicit false

namespace VocabBindings

namespace Context

variable {c next : Context} {name : Text} {items : List (Text × Attribute)}

/-- A context whose property maps are those of some required classes, as its index makes them, and
whose suggestions are types that gathering suggests. -/
structure Underway (c : Context) : Prop where
  nodup : (Keyed.keys c.properties).Nodup
  maps : ∀ name items, (name, items) ∈ c.properties →
    name ∈ c.required ∧ (∃ e ∈ c.index.properties, name ∈ e.domains) ∧
      items = c.index.declared {} name
  suggestions : ∀ type ∈ c.suggestions.names, c.index.Suggests {} c.required type

theorem underway_fresh (index : Index) : Underway { index } :=
  ⟨List.nodup_nil, by simp, by simp [NameSet.empty]⟩

namespace Underway

theorem propertiesOf_eq (h : Underway c) (name : Text) :
    c.propertiesOf name = [] ∨ c.propertiesOf name = c.index.declared {} name := by
  unfold propertiesOf
  cases hget : Keyed.get? name c.properties with
  | none => exact .inl rfl
  | some items => exact .inr (h.maps name items (Keyed.mem_of_get? hget)).2.2

theorem propertiesOf_gather (h : Underway c) (hn : name ∈ c.required) :
    c.gather.propertiesOf name = c.index.declared {} name := by
  rw [gather, propertiesOf_gatherWith, if_pos hn]
  rcases h.propertiesOf_eq name with hnil | hdeclared
  · rw [hnil]
    rfl
  · rw [hdeclared]
    exact Keyed.foldl_put_ofList _

theorem nodup_gather (h : Underway c) : (Keyed.keys c.gather.properties).Nodup :=
  nodup_keys_foldl_store h.nodup

theorem mem_properties_gather (h : Underway c) :
    (name, items) ∈ c.gather.properties ↔
      name ∈ c.required ∧ (∃ e ∈ c.index.properties, name ∈ e.domains) ∧
        items = c.index.declared {} name := by
  have hkeys : name ∈ Keyed.keys c.gather.properties ↔
      name ∈ c.required ∧ ∃ e ∈ c.index.properties, name ∈ e.domains := by
    rw [gather, mem_keys_gatherWith, or_iff_left_of_imp]
    intro hkey
    obtain ⟨⟨_, items⟩, hmem, rfl⟩ := List.mem_map.mp hkey
    exact ⟨(h.maps _ _ hmem).1, (h.maps _ _ hmem).2.1⟩
  have hitems : ∀ items, (name, items) ∈ c.gather.properties → name ∈ c.required →
      items = c.index.declared {} name := by
    intro items hmem hn
    rw [← h.propertiesOf_gather hn, propertiesOf,
      (Keyed.get?_eq_some_iff_mem h.nodup_gather).mpr hmem, Option.getD_some]
  constructor
  · intro hmem
    obtain ⟨hn, hdomain⟩ := hkeys.mp (List.mem_map_of_mem hmem)
    exact ⟨hn, hdomain, hitems items hmem hn⟩
  · rintro ⟨hn, hdomain, rfl⟩
    obtain ⟨⟨_, items⟩, hmem, rfl⟩ := List.mem_map.mp (hkeys.mpr ⟨hn, hdomain⟩)
    rwa [← hitems items hmem hn]

theorem mem_suggestions_gather (h : Underway c) {type : Text} :
    type ∈ c.gather.suggestions.names ↔ c.index.Suggests {} c.required type := by
  simp only [gather, gatherWith, TypeNaming.suggest, NameSet.mem_names_insertAll,
    TypeNaming.referenced, List.mem_filter, mem_gatheredTypes, Option.isNone_iff_eq_none]
  constructor
  · rintro ((⟨hdeclared, hprimitive⟩ | hold) | hold)
    · exact .inl ⟨hprimitive, hdeclared⟩
    · exact h.suggestions type hold
    · exact h.suggestions type hold
  · rintro (⟨hprimitive, hdeclared⟩ | hnone)
    · exact .inl (.inl ⟨hdeclared, hprimitive⟩)
    · exact absurd hnone List.not_mem_nil

theorem gather (h : Underway c) : Underway c.gather := by
  refine ⟨h.nodup_gather, fun name items hm => ?_, fun type htype => ?_⟩
  · rw [required_gather, index_gather]
    exact h.mem_properties_gather.mp hm
  · rw [required_gather, index_gather]
    exact h.mem_suggestions_gather.mp htype

theorem call {missing : Option MissingSchema} (h : Underway c) {call : Call}
    (hc : c.call call = (next, missing)) : Underway next := by
  obtain ⟨requested, heq⟩ := c.call_eq call
  obtain ⟨rfl, -⟩ := Prod.mk.inj (heq.symm.trans hc)
  refine ⟨h.nodup, fun name items hm => ?_, fun type htype => ?_⟩
  · obtain ⟨hn, hdeclared⟩ := h.maps name items hm
    exact ⟨List.mem_append_left _ hn, hdeclared⟩
  · rcases h.suggestions type htype with ⟨hprimitive, e, he, hrange, owner, hdomain, ho⟩ | hnone
    · exact .inl ⟨hprimitive, e, he, hrange, owner, hdomain, List.mem_append_left _ ho⟩
    · exact .inr hnone

theorem gather_congr {d : Context} (h : Underway c) (hd : Underway d) (hindex : c.index = d.index)
    (hrequired : c.required = d.required) :
    c.gather.properties.Perm d.gather.properties ∧
      (∀ name, Keyed.get? name c.gather.properties = Keyed.get? name d.gather.properties) ∧
      c.gather.suggestions = d.gather.suggestions := by
  have hmem : ∀ p, p ∈ c.gather.properties ↔ p ∈ d.gather.properties := by
    rintro ⟨name, items⟩
    rw [h.mem_properties_gather, hd.mem_properties_gather, hindex, hrequired]
  refine ⟨?_, fun name => ?_, NameSet.eq_of_mem_iff fun type => ?_⟩
  · exact (List.perm_ext_iff_of_nodup h.nodup_gather.of_map hd.nodup_gather.of_map).mpr hmem
  · ext items
    rw [Keyed.get?_eq_some_iff_mem h.nodup_gather, Keyed.get?_eq_some_iff_mem hd.nodup_gather, hmem]
  · rw [h.mem_suggestions_gather, hd.mem_suggestions_gather, hindex, hrequired]

theorem gather_gather (h : Underway c) : c.gather.gather = c.gather := by
  obtain ⟨-, hget, hsuggestions⟩ :=
    h.gather.gather_congr h c.index_gather c.required_gather
  have hkeys : Keyed.keys c.gather.gather.properties = Keyed.keys c.gather.properties := by
    -- Every class that is stored on has its place from the first time.
    refine keys_foldl_store_of_mem fun r hr => ?_
    obtain ⟨e, he, hr⟩ := List.mem_flatMap.mp hr
    obtain ⟨owner, ho, rfl⟩ := List.mem_map.mp hr
    obtain ⟨hdomain, hrequired⟩ := List.mem_filter.mp ho
    rw [required_gather, decide_eq_true_eq] at hrequired
    rw [index_gather] at he
    exact mem_keys_gatherWith.mpr (.inl ⟨hrequired, e, he, hdomain⟩)
  have hproperties := Keyed.eq_of_get?_eq h.gather.nodup_gather hkeys hget
  obtain ⟨properties, suggestions, heq⟩ := c.gather.gather_eq
  rw [heq] at hproperties hsuggestions ⊢
  dsimp only at hproperties hsuggestions
  rw [hproperties, hsuggestions]

end Underway

inductive Step where
  | call (call : Call)
  | gather
  deriving DecidableEq

def Step.isCall : Step → Bool
  | .call _ => true
  | .gather => false

def afterSteps (c : Context) : List Step → Option Context
  | [] => some c
  | .gather :: rest => c.gather.afterSteps rest
  | .call call :: rest =>
    match c.call call with
    | (next, none) => next.afterSteps rest
    | (_, some _) => none

def ungathered (c : Context) : Context := { c with properties := [], suggestions := .empty }

theorem ungathered_gather (c : Context) : c.gather.ungathered = c.ungathered := by
  obtain ⟨properties, suggestions, heq⟩ := c.gather_eq
  rw [heq]
  rfl

theorem call_ungathered (c : Context) (call : Call) :
    c.ungathered.call call = ((c.call call).1.ungathered, (c.call call).2) := by
  cases call with
  | one name => rfl
  | all names =>
    show c.ungathered.requireAll names =
      ((c.requireAll names).1.ungathered, (c.requireAll names).2)
    induction names generalizing c with
    | nil => rfl
    | cons name rest ih =>
      have hstep : (c.ungathered.request name).require name =
          (((c.request name).require name).1.ungathered, ((c.request name).require name).2) := by
        rw [request_eq, request_eq]
        rfl
      rw [requireAll, requireAll, hstep]
      rcases (c.request name).require name with ⟨mid, _ | missing⟩
      · exact ih mid
      · rfl

theorem afterSteps_ungathered {steps : List Step} (h : c.afterSteps steps = some next) :
    c.ungathered.afterSteps (steps.filter Step.isCall) = some next.ungathered := by
  induction steps generalizing c with
  | nil =>
    obtain rfl := Option.some.inj h
    rfl
  | cons step rest ih =>
    cases step with
    | gather =>
      rw [← ungathered_gather]
      exact ih h
    | call call =>
      rw [List.filter_cons_of_pos rfl, afterSteps, call_ungathered]
      rw [afterSteps] at h
      rcases hc : c.call call with ⟨mid, _ | missing⟩
      · rw [hc] at h
        exact ih h
      · rw [hc] at h
        cases h

theorem Underway.afterSteps {steps : List Step} (h : Underway c)
    (hc : c.afterSteps steps = some next) : Underway next := by
  induction steps generalizing c with
  | nil => exact Option.some.inj hc ▸ h
  | cons step rest ih =>
    cases step with
    | gather => exact ih h.gather hc
    | call call =>
      rw [Context.afterSteps] at hc
      split at hc
      · rename_i mid hmid
        exact ih (h.call hmid) hc
      · cases hc

theorem afterSteps_concat_gather (c : Context) (steps : List Step) :
    c.afterSteps (steps ++ [.gather]) = (c.afterSteps steps).map gather := by
  induction steps generalizing c with
  | nil => rfl
  | cons step rest ih =>
    cases step with
    | gather => exact ih c.gather
    | call call =>
      rw [List.cons_append, afterSteps, afterSteps]
      split
      · exact ih _
      · rfl

/-- Successful steps on a fresh context that end with a gathering leave what the calls among them
leave, followed by this one gathering: the same classes required and requested, the same suggestions
and the same property map for every class. Only the order of the classes that have a map may differ.
A further gathering changes nothing. -/
theorem gather_of_afterSteps {index : Index} {steps : List Step}
    (h : ({ index : Context }).afterSteps (steps ++ [.gather]) = some c) :
    ∃ called, ({ index : Context }).afterSteps (steps.filter Step.isCall) = some called ∧
      c.required = called.required ∧ c.requested = called.requested ∧ c.index = called.index ∧
      c.properties.Perm called.gather.properties ∧
      (∀ name, Keyed.get? name c.properties = Keyed.get? name called.gather.properties) ∧
      c.suggestions = called.gather.suggestions ∧
      c.gather = c := by
  rw [afterSteps_concat_gather, Option.map_eq_some_iff] at h
  obtain ⟨last, hlast, rfl⟩ := h
  have hunder := (underway_fresh index).afterSteps hlast
  have hcalls : ({ index : Context }).afterSteps (steps.filter Step.isCall) =
      some last.ungathered := afterSteps_ungathered hlast
  obtain ⟨hproperties, hget, hsuggestions⟩ :=
    hunder.gather_congr ((underway_fresh index).afterSteps hcalls) rfl rfl
  exact ⟨_, hcalls, last.required_gather, last.requested_gather, last.index_gather, hproperties,
    hget, hsuggestions, hunder.gather_gather⟩

def edition : Index :=
  ⟨[bareClass "Book" ["Work"], bareClass "Work" [],
    { bareProperty "issue" ["Book", "Work"] ["Text"] with label := "number".toList },
    { bareProperty "volume" ["Book"] ["Number", "Series"] with label := "number".toList },
    bareProperty "title" ["Work"] ["Text"]]⟩

theorem gather_of_afterSteps_edition :
    let steps := [.gather, .call (.one "Work".toList), .gather, .gather,
      .call (.all (["Book", "Work"].map String.toList))]
    ∃ c called, ({ index := edition : Context }).afterSteps (steps ++ [.gather]) = some c ∧
      ({ index := edition : Context }).afterSteps (steps.filter Step.isCall) = some called ∧
      c.properties.Perm called.gather.properties ∧ c.gather = c ∧
      c.suggestions.names = ["Series".toList] ∧
      Keyed.keys c.properties = ["Work", "Book"].map String.toList ∧
      Keyed.keys called.gather.properties = ["Book", "Work"].map String.toList := by
  intro steps
  let one : Context := { index := edition, required := ["Work".toList] }
  let both : Context :=
    { index := edition
      requested := ["Book", "Work"].map String.toList
      required := ["Work", "Book"].map String.toList }
  let last : Context :=
    { both with
      properties := one.gather.gather.properties, suggestions := one.gather.gather.suggestions }
  have hone : ({ index := edition : Context }).gather.call (.one "Work".toList) = (one, none) := by
    have hnothing : ({ index := edition : Context }).gather = { index := edition } := by rfl
    rw [hnothing]
    cbv
  have hall : one.gather.gather.call (.all (["Book", "Work"].map String.toList)) = (last, none) := by
    have hcall : ∀ properties suggestions,
        ({ one with properties, suggestions } : Context).call
          (.all (["Book", "Work"].map String.toList)) =
        ({ both with properties, suggestions }, none) := by
      intro properties suggestions
      cbv
    have hgathered : one.gather.gather =
        { one with
          properties := one.gather.gather.properties
          suggestions := one.gather.gather.suggestions } := by
      obtain ⟨_, _, hfirst⟩ := one.gather_eq
      obtain ⟨_, _, hsecond⟩ := one.gather.gather_eq
      rw [hsecond, hfirst]
    rw [hgathered]
    exact hcall _ _
  have hboth : ({ index := edition : Context }).afterSteps (steps.filter Step.isCall) =
      some both := by
    cbv
  have hc : ({ index := edition : Context }).afterSteps (steps ++ [.gather]) =
      some last.gather := by
    simp only [steps, List.cons_append, List.nil_append, afterSteps, hone, hall]
  obtain ⟨called, hcalled, -, -, -, hproperties, -, hsuggestions, hagain⟩ := gather_of_afterSteps hc
  obtain rfl : both = called := Option.some.inj (hboth.symm.trans hcalled)
  have hnames : both.gather.suggestions.names = ["Series".toList] := by decide +kernel
  have hkeys : Keyed.keys last.gather.properties = ["Work", "Book"].map String.toList := by
    decide +kernel
  have hothers : Keyed.keys both.gather.properties = ["Book", "Work"].map String.toList := by
    decide +kernel
  refine ⟨_, both, hc, hboth, hproperties, hagain, ?_, hkeys, hothers⟩
  rw [hsuggestions, hnames]

end Context

end VocabBindings
