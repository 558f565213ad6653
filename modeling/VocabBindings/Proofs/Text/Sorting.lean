import Mathlib.Data.List.Sort
import VocabBindings.NameSet

/-!
Sorting texts. The order of texts is total, so lists with the same members in the same numbers are
sorted alike, and two sets of names with the same members list them alike.
-/

set_option autoImplicit false

namespace VocabBindings

namespace Text

theorem atMost_iff {a b : Text} : atMost a b = true ↔ ¬ b < a := by simp [atMost]

theorem atMost_trans {a b c : Text} (hab : atMost a b = true) (hbc : atMost b c = true) :
    atMost a c = true := by
  rw [atMost_iff] at hab hbc ⊢
  exact List.not_lt.mpr (List.le_trans (List.not_lt.mp hab) (List.not_lt.mp hbc))

theorem atMost_total (a b : Text) : (atMost a b || atMost b a) = true := by
  rw [Bool.or_eq_true, atMost_iff, atMost_iff, List.not_lt, List.not_lt]
  exact List.le_total a b

theorem atMost_antisymm {a b : Text} (hab : atMost a b = true) (hba : atMost b a = true) :
    a = b := by
  rw [atMost_iff] at hab hba
  exact List.le_antisymm (List.not_lt.mp hab) (List.not_lt.mp hba)

theorem pairwise_mergeSort_by {α : Type} (key : α → Text) (items : List α) :
    (items.mergeSort fun a b => atMost (key a) (key b)).Pairwise fun a b =>
      atMost (key a) (key b) = true := by
  apply List.pairwise_mergeSort
  · exact fun _ _ _ => atMost_trans
  · exact fun _ _ => atMost_total _ _

theorem mergeSort_eq_of_perm {a b : List Text} (h : a.Perm b) :
    a.mergeSort atMost = b.mergeSort atMost := by
  apply List.Perm.eq_of_pairwise (fun _ _ _ _ => atMost_antisymm)
    (pairwise_mergeSort_by id a) (pairwise_mergeSort_by id b)
  exact (List.mergeSort_perm a _).trans (h.trans (List.mergeSort_perm b _).symm)

end Text

namespace NameSet

variable {names items : List Text}

theorem mem_names_ofList {name : Text} : name ∈ (ofList names).names ↔ name ∈ names := by
  simp [ofList, mem_names_insertAll, empty]

theorem nodup_names (s : NameSet) : s.names.Nodup := by
  refine s.ascending.imp ?_
  rintro a _ hlt rfl
  exact List.lt_irrefl a hlt

theorem names_ofList_perm (hitems : items.Nodup) (h : ∀ name, name ∈ names ↔ name ∈ items) :
    (ofList names).names.Perm items := by
  rw [List.perm_ext_iff_of_nodup (nodup_names _) hitems]
  exact fun name => mem_names_ofList.trans (h name)

theorem pairwise_names (s : NameSet) : s.names.Pairwise fun a b => Text.atMost a b = true :=
  s.ascending.imp fun hlt => Text.atMost_iff.mpr fun hgt =>
    List.lt_irrefl _ (List.lt_trans hlt hgt)

/-- The names of a set are its members in ascending order. -/
theorem names_ofList_eq (hitems : items.Pairwise fun a b => Text.atMost a b = true)
    (hnodup : items.Nodup) (h : ∀ name, name ∈ names ↔ name ∈ items) :
    (ofList names).names = items :=
  List.Perm.eq_of_pairwise (fun _ _ _ _ => Text.atMost_antisymm) (pairwise_names _) hitems
    (names_ofList_perm hnodup h)

theorem names_eq_iff {s t : NameSet} :
    s.names = t.names ↔ ∀ name, name ∈ s.names ↔ name ∈ t.names := by
  refine ⟨fun h name => by rw [h], fun h => ?_⟩
  exact List.Perm.eq_of_pairwise (fun _ _ _ _ => Text.atMost_antisymm) (pairwise_names s)
    (pairwise_names t) ((List.perm_ext_iff_of_nodup (nodup_names s) (nodup_names t)).mpr h)

theorem eq_of_mem_iff {s t : NameSet} (h : ∀ name, name ∈ s.names ↔ name ∈ t.names) : s = t := by
  have hnames := names_eq_iff.mpr h
  cases s
  cases t
  simpa using hnames

end NameSet

end VocabBindings
