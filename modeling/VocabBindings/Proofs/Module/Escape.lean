import Mathlib.Logic.Function.Basic
import VocabBindings.Proofs.Module.Description

/-!
Escaped descriptions as they are read. A backslash is read with the backslash or the quote behind
it, and stands for nothing; every other character stands for itself. Escaping is undone by reading,
and leaves neither three quotes in a row without backslashes nor a backslash that is read alone.
-/

set_option autoImplicit false

namespace VocabBindings.Module

/-- A character as it stands in a docstring, alone or behind a backslash. -/
inductive Sign where
  | plain (c : Char)
  | escape (c : Char)
  deriving DecidableEq

def Sign.meaning : Sign → Char
  | plain c => c
  | escape c => c

def Sign.text : Sign → Text
  | plain c => [c]
  | escape c => ['\\', c]

def signs : Text → List Sign
  | '\\' :: '\\' :: rest => .escape '\\' :: signs rest
  | '\\' :: '"' :: rest => .escape '"' :: signs rest
  | c :: rest => .plain c :: signs rest
  | [] => []

def unescaped (t : Text) : Text := (signs t).map Sign.meaning

theorem flatMap_text_signs (t : Text) : (signs t).flatMap Sign.text = t := by
  fun_induction signs t with
  | case1 rest ih => simp [Sign.text, ih]
  | case2 rest ih => simp [Sign.text, ih]
  | case3 c rest _ _ ih => simp [Sign.text, ih]
  | case4 => rfl

theorem signs_cons {c : Char} (h : c ≠ '\\') (rest : Text) :
    signs (c :: rest) = .plain c :: signs rest := by
  rw [signs]
  · rintro _ rfl
    exact absurd rfl h
  · rintro _ rfl
    exact absurd rfl h

/-! What is escaped, from the start of a text. -/

theorem escaped_backslash (rest : Text) : escaped ('\\' :: rest) = '\\' :: '\\' :: escaped rest :=
  rfl

theorem escaped_tripleQuote (rest : Text) :
    escaped ('"' :: '"' :: '"' :: rest) =
      '\\' :: '"' :: '\\' :: '"' :: '\\' :: '"' :: escaped rest :=
  rfl

theorem not_prefix_of_forall {c : Char} {rest : Text}
    (h : ∀ more, c = '"' → rest = '"' :: '"' :: more → False) : ¬ tripleQuote <+: c :: rest := by
  rintro ⟨more, hmore⟩
  obtain ⟨rfl, rfl⟩ := List.cons.inj hmore
  exact h more rfl rfl

theorem escaped_cons {c : Char} {rest : Text} (hc : c ≠ '\\')
    (hquote : ¬ tripleQuote <+: c :: rest) : escaped (c :: rest) = c :: escaped rest := by
  have hdoubled : doubleBackslashes (c :: rest) = c :: doubleBackslashes rest := by
    simp [doubleBackslashes, hc]
  rw [escaped, hdoubled, escapeTripleQuotes]
  · rfl
  · rintro more rfl hmore
    have hprefix : tripleQuote <+: doubleBackslashes ('"' :: rest) := by
      rw [hdoubled, hmore]
      exact ⟨more, rfl⟩
    exact hquote (prefix_of_doubleBackslashes (by decide) hprefix)

theorem signs_escaped_cons {c : Char} {rest : Text} (hc : c ≠ '\\')
    (hquote : ¬ tripleQuote <+: c :: rest) :
    signs (escaped (c :: rest)) = .plain c :: signs (escaped rest) := by
  rw [escaped_cons hc hquote, signs_cons hc]

theorem unescaped_escaped (t : Text) : unescaped (escaped t) = t := by
  fun_induction escapeTripleQuotes t with
  | case1 => rfl
  | case2 rest ih => exact congrArg (['"', '"', '"'] ++ ·) ih
  | case3 c rest hquote ih =>
    by_cases hc : c = '\\'
    · subst hc
      exact congrArg ('\\' :: ·) ih
    · rw [unescaped, signs_escaped_cons hc (not_prefix_of_forall hquote)]
      exact congrArg (c :: ·) ih

theorem prefix_of_signs_escaped {q t : Text} (h : q.map Sign.plain <+: signs (escaped t)) :
    q <+: t := by
  have hplain : (q.map Sign.plain).map Sign.meaning = q := by
    rw [List.map_map]
    exact List.map_id q
  rw [← hplain, ← unescaped_escaped t]
  exact h.map Sign.meaning

theorem not_infix_signs_escaped (t : Text) :
    ¬ tripleQuote.map Sign.plain <:+: signs (escaped t) := by
  -- An escape is no plain sign, so what is found starts behind it.
  have hskip : ∀ {c : Char} {more : List Sign}, tripleQuote.map Sign.plain <:+: .escape c :: more →
      tripleQuote.map Sign.plain <:+: more := by
    intro c more h
    refine (List.infix_cons_iff.mp h).resolve_left fun hprefix => ?_
    simp [tripleQuote] at hprefix
  fun_induction escapeTripleQuotes t with
  | case1 => decide
  | case2 rest ih => exact fun h => ih (hskip (hskip (hskip h)))
  | case3 c rest hquote ih =>
    by_cases hc : c = '\\'
    · subst hc
      exact fun h => ih (hskip h)
    · intro h
      have hnot := not_prefix_of_forall hquote
      rcases List.infix_cons_iff.mp (signs_escaped_cons hc hnot ▸ h) with hprefix | hrest
      · exact hnot (prefix_of_signs_escaped (signs_escaped_cons hc hnot ▸ hprefix))
      · exact ih hrest

theorem plain_backslash_not_mem_signs_escaped (t : Text) :
    Sign.plain '\\' ∉ signs (escaped t) := by
  fun_induction escapeTripleQuotes t with
  | case1 => decide
  | case2 rest ih => simpa [escaped_tripleQuote, signs] using ih
  | case3 c rest hquote ih =>
    by_cases hc : c = '\\'
    · subst hc
      simpa [escaped_backslash, signs] using ih
    · rw [signs_escaped_cons hc (not_prefix_of_forall hquote)]
      simp [Ne.symm hc, ih]

/-- An escaped text is read as the text that was escaped, so different texts are escaped
differently. It is made of its signs; no three of them in a row are plain quotes, and none is a
backslash that is read alone. -/
theorem signs_of_escaped :
    Function.Injective escaped ∧
      ∀ t, unescaped (escaped t) = t ∧ (signs (escaped t)).flatMap Sign.text = escaped t ∧
        ¬ [.plain '"', .plain '"', .plain '"'] <:+: signs (escaped t) ∧
        .plain '\\' ∉ signs (escaped t) :=
  ⟨Function.LeftInverse.injective unescaped_escaped, fun t =>
    ⟨unescaped_escaped t, flatMap_text_signs _, not_infix_signs_escaped t,
      plain_backslash_not_mem_signs_escaped t⟩⟩

end VocabBindings.Module
