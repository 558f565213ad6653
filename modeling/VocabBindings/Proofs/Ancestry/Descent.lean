import Mathlib.Logic.Relation
import VocabBindings.Proofs.Ancestry.Discovery

/-!
Descent as a relation. A class descends from itself, from its parents, from theirs, and so on. The
search from a list of names discovers exactly the classes that one of them descends from. An empty
name is no class, so descent does not lead through it, not even where an entry has it as its
identifier.
-/

set_option autoImplicit false

namespace VocabBindings.Index

def HasParent (index : Index) (name parent : Text) : Prop := parent ∈ index.parentsOf name

instance (index : Index) (name parent : Text) : Decidable (index.HasParent name parent) :=
  inferInstanceAs (Decidable (parent ∈ index.parentsOf name))

def Inherits (index : Index) (name parent : Text) : Prop :=
  name ≠ [] ∧ parent ≠ [] ∧ index.HasParent name parent

/-- A class descends from itself and from all its ancestors. -/
def Descends (index : Index) : Text → Text → Prop := Relation.ReflTransGen index.Inherits

variable {index : Index}

theorem eq_nil_of_descends_nil {ancestor : Text} (h : index.Descends [] ancestor) :
    ancestor = [] := by
  rcases Relation.ReflTransGen.cases_head h with heq | ⟨_, hfirst, -⟩
  · exact heq.symm
  · exact absurd rfl hfirst.1

theorem ne_nil_of_descends {name ancestor : Text} (hn : name ≠ [])
    (h : index.Descends name ancestor) : ancestor ≠ [] := by
  rcases Relation.ReflTransGen.cases_tail h with heq | ⟨_, -, hlast⟩
  · exact heq ▸ hn
  · exact hlast.2.1

/-- Without an entry for the empty name, descent is what the parents alone say. -/
theorem descends_iff (h : index.get? [] = none) {name ancestor : Text} (hn : ancestor ≠ []) :
    index.Descends name ancestor ↔ Relation.ReflTransGen index.HasParent name ancestor := by
  constructor
  · have hsub : index.Inherits ≤ index.HasParent := by
      intro child parent hp
      exact hp.2.2
    exact Relation.ReflTransGen.mono hsub name ancestor
  · intro hr
    induction hr with
    | refl => exact Relation.ReflTransGen.refl
    | @tail child parent _ hp ih =>
      -- The child has a parent, so it is not the empty name.
      have hc : child ≠ [] := by
        rintro rfl
        rw [HasParent, parentsOf_of_none h] at hp
        exact List.not_mem_nil hp
      exact (ih hc).tail ⟨hc, hn, hp⟩

/-- What a search discovers is what the searched names descend from. -/
theorem exists_descends_of_mem {visited names : List Text} {requestedBy : Option Text}
    {d : Discovery} (hd : d ∈ index.discoveries visited requestedBy names) :
    ∃ name ∈ names, name ≠ [] ∧ index.Descends name d.name := by
  fun_induction discoveries index visited requestedBy names with
  | case1 => simp at hd
  | case2 visited requestedBy name rest hv ih =>
    obtain ⟨n, hn, hr⟩ := ih hd
    exact ⟨n, List.mem_cons_of_mem _ hn, hr⟩
  | case3 visited requestedBy name rest hv above ihAbove ihRest =>
    have hname : name ≠ [] := fun h => hv (.inl h)
    rcases List.mem_append.mp hd with hd | hd
    · rcases List.mem_cons.mp hd with rfl | hd
      · exact ⟨name, List.mem_cons_self, hname, Relation.ReflTransGen.refl⟩
      · obtain ⟨parent, hp, hpn, hr⟩ := ihAbove hd
        exact ⟨name, List.mem_cons_self, hname, hr.head ⟨hname, hpn, hp⟩⟩
    · obtain ⟨n, hn, hr⟩ := ihRest hd
      exact ⟨n, List.mem_cons_of_mem _ hn, hr⟩

theorem mem_discovered_of_mem {names : List Text} {name : Text} (hm : name ∈ names)
    (hn : name ≠ []) : name ∈ index.discovered names := by
  simpa [discovered] using index.mem_discoveries_of_mem [] none hm hn

theorem mem_discovered_of_inherits {names : List Text} {name parent : Text}
    (hm : name ∈ index.discovered names) (hp : index.Inherits name parent) :
    parent ∈ index.discovered names := by
  obtain ⟨d, hd, rfl⟩ := Discovery.mem_names.mp hm
  simpa [discovered] using mem_discoveries_of_parent hd hp.2.2 hp.2.1

theorem mem_discovered_iff {names : List Text} {x : Text} :
    x ∈ index.discovered names ↔ x ≠ [] ∧ ∃ name ∈ names, index.Descends name x := by
  constructor
  · intro hx
    obtain ⟨d, hd, rfl⟩ := Discovery.mem_names.mp hx
    obtain ⟨name, hn, -, hr⟩ := exists_descends_of_mem hd
    exact ⟨ne_nil_of_mem_discoveries hd, name, hn, hr⟩
  · rintro ⟨hx, name, hn, hr⟩
    -- Along the descent, every step stays inside the discovered names.
    induction hr with
    | refl => exact mem_discovered_of_mem hn hx
    | tail _ hp ih => exact mem_discovered_of_inherits (ih hp.1) hp

theorem discovered_subset {names more : List Text}
    (h : ∀ name ∈ names, name ≠ [] → name ∈ more) :
    index.discovered names ⊆ index.discovered more := by
  intro x hx
  obtain ⟨d, hd, rfl⟩ := Discovery.mem_names.mp hx
  obtain ⟨name, hn, hne, hr⟩ := exists_descends_of_mem hd
  exact mem_discovered_iff.mpr ⟨ne_nil_of_mem_discoveries hd, name, h name hn hne, hr⟩

theorem lineage_subset_discovered {names : List Text} {name : Text}
    (hm : name ∈ index.discovered names) : index.lineage name ⊆ index.discovered names := by
  intro x hx
  rw [lineage_eq_discovered, mem_discovered_iff] at hx
  obtain ⟨hne, start, hs, hr⟩ := hx
  obtain rfl := List.mem_singleton.mp hs
  obtain ⟨-, n, hn, hrn⟩ := mem_discovered_iff.mp hm
  exact mem_discovered_iff.mpr ⟨hne, n, hn, hrn.trans hr⟩

theorem untilMissing_discoveries_eq_none_iff {names : List Text} :
    (index.untilMissing (index.discoveries [] none names)).2 = none ↔
      ∀ name ∈ names, ∀ x, x ≠ [] → index.Descends name x → index.contains x := by
  constructor
  · intro h name hn x hx hr
    have hheld := (untilMissing_eq_none_iff.mp (Prod.ext rfl h)).2
    have hm : x ∈ index.discovered names := mem_discovered_iff.mpr ⟨hx, name, hn, hr⟩
    obtain ⟨d, hd, rfl⟩ := Discovery.mem_names.mp hm
    exact hheld d hd
  · intro h
    have hheld : ∀ d ∈ index.discoveries [] none names, index.contains d.name := by
      intro d hd
      obtain ⟨name, hn, -, hr⟩ := exists_descends_of_mem hd
      exact h name hn d.name (ne_nil_of_mem_discoveries hd) hr
    rw [untilMissing_eq_none_iff.mpr ⟨rfl, hheld⟩]

end VocabBindings.Index
