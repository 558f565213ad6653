import VocabBindings.Files.Tree

/-!
Single changes of a tree, and the names in a folder. A tree is well formed if it holds every place
once and no name has a slash in it.
-/

set_option autoImplicit false

namespace VocabBindings.Files.Tree

@[simp] theorem find?_nil (t : Tree) : t.find? [] = some .folder := rfl

theorem find?_of_ne_nil {place : Place} (h : place ≠ []) (t : Tree) :
    t.find? place = Keyed.get? place t.nodes := if_neg h

theorem find?_put {place q : Place} (h : q ≠ []) (t : Tree) (node : Node) :
    (t.put place node).find? q = if place = q then some node else t.find? q := by
  rw [find?_of_ne_nil h, find?_of_ne_nil h, put, Keyed.get?_put]

theorem find?_erase {place q : Place} (h : q ≠ []) (t : Tree) :
    (t.erase place).find? q = if place = q then none else t.find? q := by
  rw [find?_of_ne_nil h, find?_of_ne_nil h, erase, Keyed.get?_erase]

structure WellFormed (t : Tree) : Prop where
  nodup : (Keyed.keys t.nodes).Nodup
  names : ∀ place ∈ Keyed.keys t.nodes, ∀ name ∈ place, '/' ∉ name

theorem WellFormed.slash_not_mem_name {t : Tree} (h : t.WellFormed) {place : Place} {name : Text}
    {node : Node} (hfind : t.find? (place ++ [name]) = some node) : '/' ∉ name := by
  rw [find?_of_ne_nil (by simp)] at hfind
  have hkey := List.mem_map_of_mem (f := Prod.fst) (Keyed.mem_of_get? hfind)
  exact h.names _ hkey name (by simp)

theorem WellFormed.put {t : Tree} (h : t.WellFormed) {place : Place}
    (hnames : ∀ name ∈ place, '/' ∉ name) (node : Node) : (t.put place node).WellFormed := by
  refine ⟨Keyed.nodup_keys_put h.nodup, fun q hq => ?_⟩
  rcases Keyed.mem_keys_put.mp hq with rfl | hq
  · exact hnames
  · exact h.names q hq

theorem WellFormed.erase {t : Tree} (h : t.WellFormed) (place : Place) :
    (t.erase place).WellFormed := by
  have hsub : (Keyed.keys (t.erase place).nodes).Sublist (Keyed.keys t.nodes) :=
    List.Sublist.map Prod.fst List.filter_sublist
  exact ⟨h.nodup.sublist hsub, fun q hq => h.names q (hsub.subset hq)⟩

theorem eq_of_nameIn {place q : Place} {node : Node} {entry : Text × Node}
    (h : (match q.getLast? with
      | some name => if q.dropLast = place then some (name, node) else none
      | none => none) = some entry) : (q, node) = (place ++ [entry.1], entry.2) := by
  split at h
  · rename_i name hlast
    split at h
    · rename_i hplace
      obtain ⟨⟩ := h
      obtain ⟨lead, rfl⟩ := List.getLast?_eq_some_iff.mp hlast
      rw [← hplace, List.dropLast_concat]
    · cases h
  · cases h

theorem mem_namesIn_iff {t : Tree} (h : t.WellFormed) {place : Place} {name : Text} {node : Node} :
    (name, node) ∈ t.namesIn place ↔ t.find? (place ++ [name]) = some node := by
  rw [find?_of_ne_nil (by simp), Keyed.get?_eq_some_iff_mem h.nodup, namesIn, List.mem_filterMap]
  constructor
  · rintro ⟨⟨q, other⟩, hmem, hq⟩
    obtain ⟨rfl, rfl⟩ := Prod.mk.inj (eq_of_nameIn hq)
    exact hmem
  · intro hmem
    exact ⟨_, hmem, by simp⟩

theorem nodup_names_namesIn {t : Tree} (h : t.WellFormed) (place : Place) :
    ((t.namesIn place).map Prod.fst).Nodup := by
  have hnodes : t.nodes.Pairwise fun a b => a.1 ≠ b.1 := List.pairwise_map.mp h.nodup
  refine List.pairwise_map.mpr (List.pairwise_filterMap.mpr (hnodes.imp ?_))
  intro a b hne x hx y hy heq
  apply hne
  calc a.1 = place ++ [x.1] := congrArg Prod.fst (eq_of_nameIn hx)
    _ = place ++ [y.1] := by rw [heq]
    _ = b.1 := (congrArg Prod.fst (eq_of_nameIn hy)).symm

end VocabBindings.Files.Tree
