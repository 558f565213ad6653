import VocabBindings.Proofs.Ancestry.Requests

/-!
What a search reads of an index. Searches, lineages and requests look entries up and nothing else,
so two indexes that find the same entries are searched alike, whatever else they hold.
-/

set_option autoImplicit false

namespace VocabBindings

namespace Index

variable {a b : Index}

theorem contains_congr (h : a.get? = b.get?) (name : Text) : a.contains name = b.contains name := by
  unfold contains
  rw [h]

theorem parentsOf_congr (h : a.get? = b.get?) (name : Text) : a.parentsOf name = b.parentsOf name := by
  unfold parentsOf
  rw [h]

theorem discoveries_congr (h : a.get? = b.get?) (visited : List Text) (requestedBy : Option Text)
    (names : List Text) :
    a.discoveries visited requestedBy names = b.discoveries visited requestedBy names := by
  fun_induction discoveries a visited requestedBy names with
  | case1 => rw [discoveries]
  | case2 visited requestedBy name rest hv ih =>
    rw [discoveries, if_pos hv]
    exact ih
  | case3 visited requestedBy name rest hv above ihAbove ihRest =>
    rw [discoveries, if_neg hv]
    dsimp only
    rw [← parentsOf_congr h name, ← ihAbove, ← ihRest]

theorem lineage_congr (h : a.get? = b.get?) (name : Text) : a.lineage name = b.lineage name := by
  rw [lineage_eq_discovered, lineage_eq_discovered, discovered, discovered, discoveries_congr h]

theorem untilMissing_congr (h : a.get? = b.get?) (found : List Discovery) :
    a.untilMissing found = b.untilMissing found := by
  induction found with
  | nil => rfl
  | cons d rest ih => rw [untilMissing, untilMissing, contains_congr h, ih]

end Index

namespace Context

theorem requireAll_congr {index : Index} {c : Context} (h : c.index.get? = index.get?)
    (names : List Text) :
    ({ c with index }).requireAll names =
      ({ (c.requireAll names).1 with index }, (c.requireAll names).2) := by
  induction names generalizing c with
  | nil => rfl
  | cons name rest ih =>
    have hstep : (({ c with index }).request name).require name =
        ({ ((c.request name).require name).1 with index }, ((c.request name).require name).2) := by
      rw [request_eq, request_eq, require_eq, require_eq]
      simp only [Index.discoveries_congr h, Index.untilMissing_congr h]
    have hindex : ((c.request name).require name).1.index = c.index := by
      rw [request_eq, require_eq]
    rw [requireAll, requireAll, hstep]
    rcases hr : (c.request name).require name with ⟨next, _ | missing⟩
    · rw [hr] at hindex
      exact ih (by rw [hindex]; exact h)
    · rfl

end Context

end VocabBindings
