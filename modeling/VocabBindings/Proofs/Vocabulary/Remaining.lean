import VocabBindings.Proofs.Vocabulary.Acceptance

/-!
The entries that remain when later declarations replace earlier ones. Looking an entry up does not
tell a list from what remains of it, but going through the entries of a kind does: a replaced entry
is still among them.
-/

set_option autoImplicit false

namespace VocabBindings.Index

/-- The entries of a list that no later one with the same identifier replaces. -/
def remaining : List Entry → List Entry
  | [] => []
  | e :: rest => if e.id ∈ rest.map Entry.id then remaining rest else e :: remaining rest

def current (index : Index) : Index := ⟨remaining index.entries⟩

def IsReplaced (index : Index) (e : Entry) : Prop := index.get? e.id ≠ some e

instance (index : Index) (e : Entry) : Decidable (index.IsReplaced e) :=
  inferInstanceAs (Decidable (_ ≠ _))

theorem remaining_sublist (entries : List Entry) : (remaining entries).Sublist entries := by
  induction entries with
  | nil => exact .slnil
  | cons e rest ih =>
    unfold remaining
    split
    · exact ih.cons e
    · exact ih.cons_cons e

/-- What is appended replaces entries before it, and what remains of it comes last. -/
theorem remaining_append (before after : List Entry) :
    remaining (before ++ after) =
      (remaining before).filter (fun e => e.id ∉ after.map Entry.id) ++ remaining after := by
  induction before with
  | nil => rfl
  | cons e rest ih =>
    by_cases hrest : e.id ∈ rest.map Entry.id
    · have happ : e.id ∈ (rest ++ after).map Entry.id := by
        rw [List.map_append]
        exact List.mem_append_left _ hrest
      rw [List.cons_append, remaining, if_pos happ, ih, remaining, if_pos hrest]
    · by_cases hafter : e.id ∈ after.map Entry.id
      · have happ : e.id ∈ (rest ++ after).map Entry.id := by
          rw [List.map_append]
          exact List.mem_append_right _ hafter
        rw [List.cons_append, remaining, if_pos happ, ih, remaining, if_neg hrest,
          List.filter_cons_of_neg (by simpa using hafter)]
      · have happ : e.id ∉ (rest ++ after).map Entry.id := by
          rw [List.map_append]
          exact fun h => (List.mem_append.mp h).elim hrest hafter
        rw [List.cons_append, remaining, if_neg happ, ih, remaining, if_neg hrest,
          List.filter_cons_of_pos (by simpa using hafter), List.cons_append]

theorem get?_remaining (entries : List Entry) (id : Text) :
    (⟨remaining entries⟩ : Index).get? id = (⟨entries⟩ : Index).get? id := by
  induction entries with
  | nil => rfl
  | cons e rest ih =>
    have hcons : (⟨e :: rest⟩ : Index).get? id =
        ((⟨rest⟩ : Index).get? id).or ((⟨[e]⟩ : Index).get? id) := get?_append [e] rest id
    by_cases hm : e.id ∈ rest.map Entry.id
    · rw [remaining, if_pos hm, ih, hcons]
      cases hr : (⟨rest⟩ : Index).get? id with
      | some found => rfl
      | none =>
        -- An entry with the identifier of the first one comes later, so it is another identifier.
        have hno : (⟨[e]⟩ : Index).get? id = none := by
          refine get?_eq_none_iff.mpr fun other ho he => ?_
          obtain ⟨later, hl, hid⟩ := List.mem_map.mp hm
          rw [List.mem_singleton.mp ho] at he
          exact get?_eq_none_iff.mp hr later hl (hid.trans he)
        rw [hno, Option.or_none]
    · rw [remaining, if_neg hm, hcons, ← ih]
      exact get?_append [e] (remaining rest) id

theorem get?_current (index : Index) : index.current.get? = index.get? :=
  funext (get?_remaining index.entries)

theorem ofEntries_remaining {entries : List Entry} {index : Index}
    (h : ofEntries entries = .ok index) : ofEntries (remaining entries) = .ok index.current := by
  obtain ⟨rfl, hkinds⟩ := ofEntries_eq_ok_iff.mp h
  have hsub : remaining entries ⊆ entries := (remaining_sublist entries).subset
  exact ofEntries_eq_ok_iff.mpr ⟨rfl, fun a ha b hb => hkinds a (hsub ha) b (hsub hb)⟩

theorem not_mem_of_not_isReplaced {before after : List Entry} {e : Entry}
    (h : ¬ (⟨before ++ e :: after⟩ : Index).IsReplaced e) (hcopy : e ∉ after) :
    e.id ∉ after.map Entry.id := by
  intro hm
  obtain ⟨later, hl, hid⟩ := List.mem_map.mp hm
  cases hg : (⟨after⟩ : Index).get? e.id with
  | none => exact get?_eq_none_iff.mp hg later hl hid
  | some found =>
    have hfound : (⟨before ++ e :: after⟩ : Index).get? e.id = some found := by
      rw [List.append_cons, get?_append, hg, Option.some_or]
    have he : some found = some e := hfound.symm.trans (Classical.not_not.mp h)
    exact hcopy (Option.some.inj he ▸ (get?_mem hg).1)

end VocabBindings.Index
