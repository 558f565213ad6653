import Mathlib.Data.List.TakeWhile
import VocabBindings.Text.Basic

/-!
Pieces between separators. A separator between two texts splits their pieces, no piece holds a
separator, and joining the pieces gives the text back.
-/

set_option autoImplicit false

namespace VocabBindings.Text

variable {separator : Char}

theorem pieces_of_not_mem {t : Text} (h : separator ∉ t) : pieces separator t = [t] := by
  induction t with
  | nil => rfl
  | cons c t ih =>
    simp only [List.mem_cons, not_or] at h
    rw [pieces, if_neg (Ne.symm h.1), ih h.2]

theorem pieces_append_cons (separator : Char) (t u : Text) :
    pieces separator (t ++ separator :: u) = pieces separator t ++ pieces separator u := by
  induction t with
  | nil => simp [pieces]
  | cons c t ih =>
    obtain ⟨p, ps, hpieces⟩ := List.exists_cons_of_ne_nil (pieces_ne_nil separator t)
    by_cases hc : c = separator
    · simp [pieces, hc, ih]
    · simp [pieces, hc, ih, hpieces]

theorem eq_of_append_cons {t u rest more : Text} (ht : separator ∉ t) (hu : separator ∉ u)
    (h : t ++ separator :: rest = u ++ separator :: more) : t = u ∧ rest = more := by
  have hpieces := congrArg (pieces separator) h
  rw [pieces_append_cons, pieces_append_cons, pieces_of_not_mem ht, pieces_of_not_mem hu] at hpieces
  obtain rfl := (List.cons.inj hpieces).1
  exact ⟨rfl, (List.cons.inj (List.append_cancel_left h)).2⟩

theorem pieces_append_replicate (separator : Char) (t : Text) (n : Nat) :
    pieces separator (t ++ List.replicate n separator) =
      pieces separator t ++ List.replicate n [] := by
  induction n generalizing t with
  | zero => simp
  | succ n ih =>
    have hmore : t ++ List.replicate (n + 1) separator =
        (t ++ [separator]) ++ List.replicate n separator := by
      simp [List.replicate_succ]
    rw [hmore, ih, pieces_append_cons]
    simp [pieces, List.replicate_succ]

theorem exists_pieces_append (separator : Char) (t : Text) :
    ∃ lead last, ∀ more, separator ∉ more →
      pieces separator (t ++ more) = lead ++ [last ++ more] := by
  induction t with
  | nil => exact ⟨[], [], fun more hmore => pieces_of_not_mem hmore⟩
  | cons c t ih =>
    obtain ⟨lead, last, ih⟩ := ih
    by_cases hc : c = separator
    · exact ⟨[] :: lead, last, fun more hmore => by simp [pieces, hc, ih more hmore]⟩
    · cases lead with
      | nil => exact ⟨[], c :: last, fun more hmore => by simp [pieces, hc, ih more hmore]⟩
      | cons p ps =>
        exact ⟨(c :: p) :: ps, last, fun more hmore => by simp [pieces, hc, ih more hmore]⟩

theorem not_mem_of_mem_pieces {t p : Text} (h : p ∈ pieces separator t) : separator ∉ p := by
  induction t generalizing p with
  | nil =>
    obtain rfl := List.mem_singleton.mp h
    exact List.not_mem_nil
  | cons c t ih =>
    obtain ⟨q, qs, hpieces⟩ := List.exists_cons_of_ne_nil (pieces_ne_nil separator t)
    rw [pieces] at h
    split at h
    · rcases List.mem_cons.mp h with rfl | h
      · exact List.not_mem_nil
      · exact ih h
    · rename_i hc
      rw [hpieces] at h ih
      rcases List.mem_cons.mp h with rfl | h
      · simp [Ne.symm hc, ih]
      · exact ih (List.mem_cons_of_mem _ h)

theorem subset_of_mem_pieces {t p : Text} (h : p ∈ pieces separator t) : p ⊆ t := by
  induction t generalizing p with
  | nil =>
    obtain rfl := List.mem_singleton.mp h
    exact List.nil_subset _
  | cons c t ih =>
    obtain ⟨q, qs, hpieces⟩ := List.exists_cons_of_ne_nil (pieces_ne_nil separator t)
    rw [pieces] at h
    split at h
    · rcases List.mem_cons.mp h with rfl | h
      · exact List.nil_subset _
      · exact List.Subset.trans (ih h) (List.subset_cons_self c t)
    · rw [hpieces] at h ih
      rcases List.mem_cons.mp h with rfl | h
      · exact List.cons_subset_cons c (ih List.mem_cons_self)
      · exact List.Subset.trans (ih (List.mem_cons_of_mem _ h)) (List.subset_cons_self c t)

theorem joined_pieces (separator : Char) (t : Text) :
    joined [separator] (pieces separator t) = t := by
  induction t with
  | nil => rfl
  | cons c t ih =>
    obtain ⟨p, ps, hpieces⟩ := List.exists_cons_of_ne_nil (pieces_ne_nil separator t)
    rw [hpieces] at ih
    by_cases hc : c = separator
    · rw [pieces, if_pos hc, hpieces, joined, List.intercalate_cons_cons]
      rw [joined] at ih
      simp [hc, ih]
    · rw [pieces, if_neg hc, hpieces]
      cases ps with
      | nil => simpa [joined] using ih
      | cons q qs =>
        simp only [joined, List.intercalate_cons_cons] at ih ⊢
        simpa using ih

theorem pieces_joined {ps : List Text} (hne : ps ≠ []) (h : ∀ p ∈ ps, separator ∉ p) :
    pieces separator (joined [separator] ps) = ps := by
  induction ps with
  | nil => exact absurd rfl hne
  | cons p ps ih =>
    have hp := pieces_of_not_mem (h p List.mem_cons_self)
    cases ps with
    | nil => rw [joined, List.intercalate_singleton, hp]
    | cons q qs =>
      have hrest := ih (List.cons_ne_nil q qs) fun r hr => h r (List.mem_cons_of_mem p hr)
      rw [joined, List.intercalate_cons_cons, List.append_assoc, List.singleton_append,
        pieces_append_cons, hp, ← joined, hrest]
      rfl

/-- Texts that are joined and split again are split one by one. -/
theorem pieces_joined_eq_flatMap {ps : List Text} (hne : ps ≠ []) :
    pieces separator (joined [separator] ps) = ps.flatMap (pieces separator) := by
  induction ps with
  | nil => exact absurd rfl hne
  | cons p ps ih =>
    cases ps with
    | nil => simp [joined]
    | cons q qs =>
      rw [joined, List.intercalate_cons_cons, List.append_assoc, List.singleton_append,
        pieces_append_cons, ← joined, ih (List.cons_ne_nil q qs)]
      exact List.flatMap_cons.symm

theorem mem_of_mem_joined {between : Text} {ps : List Text} {c : Char}
    (h : c ∈ joined between ps) : c ∈ between ∨ ∃ p ∈ ps, c ∈ p := by
  induction ps with
  | nil => simp [joined] at h
  | cons p ps ih =>
    cases ps with
    | nil => exact .inr ⟨p, List.mem_cons_self, by simpa [joined] using h⟩
    | cons q qs =>
      rw [joined, List.intercalate_cons_cons, List.mem_append, List.mem_append] at h
      rcases h with (h | h) | h
      · exact .inr ⟨p, List.mem_cons_self, h⟩
      · exact .inl h
      · exact (ih h).imp_right fun ⟨r, hr, hc⟩ => ⟨r, List.mem_cons_of_mem p hr, hc⟩

theorem map_joined {f : Char → Char} (h : f separator = separator) (ps : List Text) :
    (joined [separator] ps).map f = joined [separator] (ps.map (List.map f)) := by
  induction ps with
  | nil => rfl
  | cons p ps ih =>
    cases ps with
    | nil => simp [joined]
    | cons q qs =>
      simp only [joined, List.map_cons, List.intercalate_cons_cons] at ih ⊢
      simp [ih, h]

theorem getLast?_pieces (separator : Char) (t : Text) :
    (pieces separator t).getLast? = some (t.reverse.takeWhile (· ≠ separator)).reverse := by
  by_cases hmem : separator ∈ t
  · obtain ⟨last, lead, hreverse, hlast⟩ := List.eq_append_cons_of_mem (List.mem_reverse.mpr hmem)
    have ht : t = lead.reverse ++ separator :: last.reverse := by
      have := congrArg List.reverse hreverse
      simpa using this
    have htake : t.reverse.takeWhile (· ≠ separator) = last := by
      rw [hreverse, List.takeWhile_append_of_pos]
      · simp
      · intro c hc
        have hne : c ≠ separator := fun heq => hlast (heq ▸ hc)
        simpa using hne
    have hpiece : separator ∉ last.reverse := fun hc => hlast (List.mem_reverse.mp hc)
    rw [htake, ht, pieces_append_cons, pieces_of_not_mem hpiece, List.getLast?_append]
    rfl
  · have htake : t.reverse.takeWhile (· ≠ separator) = t.reverse := by
      rw [List.takeWhile_eq_self_iff]
      intro c hc
      have hne : c ≠ separator := fun heq => hmem (heq ▸ List.mem_reverse.mp hc)
      simpa using hne
    rw [htake, pieces_of_not_mem hmem]
    simp

end VocabBindings.Text
