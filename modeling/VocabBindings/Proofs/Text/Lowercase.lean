import Mathlib
import VocabBindings.Name.Case

/-!
Capital letters in lower case. Below U+00C0 nothing but the letters A to Z changes, and no character
is mapped to one of them: a text in lower case has none.
-/

set_option autoImplicit false

namespace VocabBindings

namespace Name

theorem isCapital_iff {c : Char} : isCapital c ↔ 0x41 ≤ c.toNat ∧ c.toNat ≤ 0x5A := by
  simp [isCapital, Char.le_def, UInt32.le_iff_toNat_le]

theorem isUpper_iff {c : Char} : c.isUpper ↔ isCapital c := by
  simp [Char.isUpper, isCapital_iff, UInt32.le_iff_toNat_le]

theorem of_isCapital_ofNat {n : Nat} (h : isCapital (Char.ofNat n)) : 0x41 ≤ n ∧ n ≤ 0x5A := by
  rw [isCapital_iff, Char.toNat_ofNat] at h
  split at h
  · exact h
  · omega

theorem toNat_toLower (c : Char) :
    c.toLower.toNat = if isCapital c then c.toNat + 0x20 else c.toNat := by
  by_cases hc : isCapital c
  · have hvalid : (c.toNat + 0x20).isValidChar := by
      rw [isCapital_iff] at hc
      exact .inl (by omega)
    rw [if_pos hc, Char.toLower_eq_of_isUpper (isUpper_iff.mpr hc), Char.toNat_ofNat,
      if_pos hvalid]
  · rw [if_neg hc, Char.toLower_eq_of_not_isUpper (mt isUpper_iff.mp hc)]

theorem toLower_of_isCapital_eq_false {c : Char} (h : isCapital c = false) : c.toLower = c :=
  Char.toLower_eq_of_not_isUpper (mt isUpper_iff.mp (Bool.eq_false_iff.mp h))

end Name

namespace Text

theorem lowerIn_eq_or_le {runs : List (Nat × Nat × Nat × Nat)} {bound : Nat}
    (h : ∀ run ∈ runs, bound ≤ run.2.2.2) (n : Nat) :
    lowerIn runs n = n ∨ bound ≤ lowerIn runs n := by
  fun_induction lowerIn runs n with
  | case1 n => exact .inl rfl
  | case2 => exact .inl rfl
  | case3 first last step target rest n _ _ =>
    have htarget : bound ≤ target := h _ List.mem_cons_self
    exact .inr (Nat.le_add_right_of_le htarget)
  | case4 first last step target rest n _ _ ih =>
    exact ih fun run hrun => h run (List.mem_cons_of_mem _ hrun)

theorem lowerIn_of_lt {n : Nat} (h : n < 0xC0) :
    lowerIn lowercaseRuns n = if 0x41 ≤ n ∧ n ≤ 0x5A then n + 0x20 else n := by
  have hruns : lowercaseRuns =
      (0x41, 0x5A, 1, 0x61) :: (0xC0, 0xD6, 1, 0xE0) :: lowercaseRuns.drop 2 := rfl
  rw [hruns, lowerIn, lowerIn, if_pos h]
  simp only [Nat.mod_one, decide_true, Bool.and_true, decide_eq_true_eq]
  grind

theorem lowerChar_of_lt {c : Char} (h : c.toNat < 0xC0) : lowerChar c = [c.toLower] := by
  have hdotted : c ≠ '\u0130' := by
    rintro rfl
    exact absurd h (by decide)
  rw [lowerChar, if_neg hdotted, lowerIn_of_lt h]
  simp only [← Name.isCapital_iff]
  rw [← Name.toNat_toLower, Char.ofNat_toNat]

theorem lower_of_lt {t : Text} (h : ∀ c ∈ t, c.toNat < 0xC0) : lower t = t.map Char.toLower := by
  have hfrom : ∀ afterCased, lowerFrom afterCased t = t.map Char.toLower := by
    induction t with
    | nil => exact fun _ => rfl
    | cons c rest ih =>
      intro afterCased
      have hc := h c List.mem_cons_self
      have hsigma : c ≠ '\u03A3' := by
        rintro rfl
        exact absurd hc (by decide)
      rw [lowerFrom, if_neg hsigma, lowerChar_of_lt hc,
        ih fun d hd => h d (List.mem_cons_of_mem c hd)]
      rfl
  exact hfrom false

theorem not_isCapital_of_mem_lowerChar {c d : Char} (h : d ∈ lowerChar c) :
    Name.isCapital d = false := by
  rw [lowerChar] at h
  split at h
  · rcases List.mem_cons.mp h with rfl | h
    · decide
    · obtain rfl := List.mem_singleton.mp h
      decide
  · obtain rfl := List.mem_singleton.mp h
    rw [Bool.eq_false_iff]
    intro hcapital
    obtain ⟨hfirst, hlast⟩ := Name.of_isCapital_ofNat hcapital
    by_cases hc : c.toNat < 0xC0
    · rw [lowerIn_of_lt hc] at hfirst hlast
      grind
    · have htargets : ∀ run ∈ lowercaseRuns, 0x61 ≤ run.2.2.2 := by decide +kernel
      have := lowerIn_eq_or_le htargets c.toNat
      omega

end Text

end VocabBindings
