import VocabBindings.Vocabulary.Index

/-!
What an index accepts and what it looks up. A list of entries is accepted if no two of them give one
identifier different kinds, in whatever order they stand, and the index holds all of them then. Of
the entries with one identifier the last one is found.
-/

set_option autoImplicit false

namespace VocabBindings.Index

def KindsAgree (entries : List Entry) : Prop :=
  ∀ a ∈ entries, ∀ b ∈ entries, a.id = b.id → a.kind = b.kind

variable {index next : Index} {entries : List Entry} {e : Entry} {id : Text}

theorem get?_eq_none_iff : index.get? id = none ↔ ∀ e ∈ index.entries, e.id ≠ id := by
  simp [get?]

theorem get?_append (before after : List Entry) (id : Text) :
    (⟨before ++ after⟩ : Index).get? id =
      ((⟨after⟩ : Index).get? id).or ((⟨before⟩ : Index).get? id) := by
  simp [get?, List.find?_append]

/-- An entry is accepted if all with its identifier have its kind. The last of them is compared, and
the others have the kind of that one. -/
theorem add_eq_ok_iff (h : KindsAgree index.entries) :
    index.add e = .ok next ↔
      next = ⟨index.entries ++ [e]⟩ ∧ ∀ a ∈ index.entries, a.id = e.id → a.kind = e.kind := by
  unfold add
  cases hg : index.get? e.id with
  | none =>
    have hnone := get?_eq_none_iff.mp hg
    simp only [Except.ok.injEq]
    exact ⟨fun hn => ⟨hn.symm, fun a ha hid => absurd hid (hnone a ha)⟩, fun hn => hn.1.symm⟩
  | some existing =>
    obtain ⟨hm, hid⟩ := get?_mem hg
    dsimp only
    by_cases hk : existing.kind = e.kind
    · simp only [hk, if_true, Except.ok.injEq]
      refine ⟨fun hn => ⟨hn.symm, fun a ha hae => ?_⟩, fun hn => hn.1.symm⟩
      exact (h a ha existing hm (hae.trans hid.symm)).trans hk
    · simp only [hk, if_false, reduceCtorEq, false_iff, not_and]
      exact fun _ hall => hk (hall existing hm hid)

theorem kindsAgree_concat :
    KindsAgree (entries ++ [e]) ↔
      KindsAgree entries ∧ ∀ a ∈ entries, a.id = e.id → a.kind = e.kind := by
  constructor
  · intro h
    have hleft : ∀ a ∈ entries, a ∈ entries ++ [e] := fun a ha => List.mem_append_left _ ha
    exact ⟨fun a ha b hb => h a (hleft a ha) b (hleft b hb),
      fun a ha => h a (hleft a ha) e (by simp)⟩
  · rintro ⟨h, he⟩ a ha b hb hid
    rw [List.mem_append, List.mem_singleton] at ha hb
    rcases ha with ha | rfl <;> rcases hb with hb | rfl
    · exact h a ha b hb hid
    · exact he a ha hid
    · exact (he b hb hid.symm).symm
    · rfl

theorem addAll_eq_none_iff (h : KindsAgree index.entries) :
    index.addAll entries = (next, none) ↔
      next = ⟨index.entries ++ entries⟩ ∧ KindsAgree (index.entries ++ entries) := by
  induction entries generalizing index with
  | nil =>
    simp only [addAll, Prod.mk.injEq, and_true, List.append_nil]
    exact ⟨fun hn => ⟨hn.symm, h⟩, fun hn => hn.1.symm⟩
  | cons e rest ih =>
    have hcons : index.entries ++ e :: rest = index.entries ++ [e] ++ rest := by simp
    rw [addAll, hcons]
    cases ha : index.add e with
    | ok extended =>
      obtain ⟨rfl, hkinds⟩ := (add_eq_ok_iff h).mp ha
      exact ih (kindsAgree_concat.mpr ⟨h, hkinds⟩)
    | error refusal =>
      simp only [Prod.mk.injEq, reduceCtorEq, and_false, false_iff, not_and]
      rintro - hall
      have hconcat : KindsAgree (index.entries ++ [e]) :=
        fun a ha b hb => hall a (List.mem_append_left _ ha) b (List.mem_append_left _ hb)
      have hok := (add_eq_ok_iff h).mpr ⟨rfl, (kindsAgree_concat.mp hconcat).2⟩
      rw [ha] at hok
      cases hok

/-- A list is accepted exactly if its kinds agree, and it is indexed as it is. -/
theorem ofEntries_eq_ok_iff :
    ofEntries entries = .ok index ↔ index = ⟨entries⟩ ∧ KindsAgree entries := by
  have hempty : KindsAgree empty.entries := fun a ha => absurd ha List.not_mem_nil
  have hall : empty.addAll entries = (index, none) ↔ index = ⟨entries⟩ ∧ KindsAgree entries :=
    addAll_eq_none_iff hempty
  rw [← hall]
  unfold ofEntries
  rcases empty.addAll entries with ⟨held, _ | refusal⟩
  · simp
  · simp

end VocabBindings.Index
