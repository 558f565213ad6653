import VocabBindings.Proofs.Module.Reading
import VocabBindings.Proofs.Text.Rows

/-!
Descriptions in docstrings. In an escaped description three double quotes stand in a row only right
behind a quote with its backslash. Wrapping may cut between that backslash and its quote. Then the
next line starts with three double quotes, and only then a docstring is closed inside a description.
-/

set_option autoImplicit false

namespace VocabBindings.Module

/-! Escapes. -/

theorem eq_cons_of_escapeTripleQuotes {x rest : Text} (h : escapeTripleQuotes x = '"' :: rest) :
    ∃ tail, x = '"' :: tail ∧ rest = escapeTripleQuotes tail := by
  fun_cases escapeTripleQuotes x with
  | case1 => simp [escapeTripleQuotes] at h
  | case2 tail => simp [escapeTripleQuotes] at h
  | case3 c tail hquote =>
    rw [escapeTripleQuotes] at h
    · obtain ⟨rfl, rfl⟩ := List.cons.inj h
      exact ⟨tail, rfl, rfl⟩
    · exact hquote

/-- Three quotes in a row are the last one of an escape and two that were left over. -/
theorem of_escapeTripleQuotes_eq {x before after : Text}
    (h : escapeTripleQuotes x = before ++ tripleQuote ++ after) :
    (∃ lead, before = lead ++ ['"', '\\']) ∧ List.replicate 5 '"' <:+: x := by
  fun_induction escapeTripleQuotes x generalizing before with
  | case1 => simp [tripleQuote] at h
  | case2 rest ih =>
    -- The quotes start inside the escape, which leaves its last character, or behind it.
    rcases before with _ | ⟨a, _ | ⟨b, _ | ⟨c, _ | ⟨d, _ | ⟨e, _ | ⟨f, before⟩⟩⟩⟩⟩⟩ <;>
      simp only [tripleQuote, List.nil_append, List.cons_append, List.cons.injEq, Char.reduceEq,
        true_and, false_and, and_false] at h
    · obtain ⟨rfl, rfl, rfl, rfl, rfl, hrest⟩ := h
      obtain ⟨tail, rfl, htail⟩ := eq_cons_of_escapeTripleQuotes hrest
      obtain ⟨tail, rfl, -⟩ := eq_cons_of_escapeTripleQuotes htail.symm
      exact ⟨⟨['\\', '"', '\\'], rfl⟩, [], tail, rfl⟩
    · obtain ⟨rfl, rfl, rfl, rfl, rfl, rfl, hrest⟩ := h
      obtain ⟨⟨lead, rfl⟩, hquotes⟩ := ih hrest
      refine ⟨⟨_ :: _ :: _ :: _ :: _ :: _ :: lead, rfl⟩, ?_⟩
      exact hquotes.trans (List.suffix_append ['"', '"', '"'] rest).isInfix
  | case3 c rest hquote ih =>
    cases before with
    | nil =>
      obtain ⟨rfl, hrest⟩ := List.cons.inj h
      obtain ⟨tail, rfl, htail⟩ := eq_cons_of_escapeTripleQuotes hrest
      obtain ⟨tail, rfl, -⟩ := eq_cons_of_escapeTripleQuotes htail.symm
      exact absurd rfl (hquote tail rfl)
    | cons b before =>
      obtain ⟨rfl, hrest⟩ := List.cons.inj h
      obtain ⟨⟨lead, rfl⟩, hquotes⟩ := ih hrest
      exact ⟨⟨c :: lead, rfl⟩, hquotes.trans (List.suffix_cons c rest).isInfix⟩

theorem prefix_of_doubleBackslashes {q t : Text} (hq : '\\' ∉ q) (h : q <+: doubleBackslashes t) :
    q <+: t := by
  induction t generalizing q with
  | nil => exact h
  | cons c t ih =>
    cases q with
    | nil => exact List.nil_prefix
    | cons a q =>
      simp only [List.mem_cons, not_or] at hq
      rw [doubleBackslashes, List.flatMap_cons] at h
      split at h
      · exact absurd (List.cons_prefix_cons.mp h).1 (Ne.symm hq.1)
      · obtain ⟨rfl, hrest⟩ := List.cons_prefix_cons.mp h
        exact (List.prefix_cons_inj a).mpr (ih hq.2 hrest)

theorem infix_of_doubleBackslashes {q t : Text} (hq : '\\' ∉ q) (h : q <:+: doubleBackslashes t) :
    q <:+: t := by
  -- A backslash is of no use for an occurrence.
  have hcons : ∀ {rest : Text}, q <:+: '\\' :: rest → q <:+: rest := by
    intro rest hinfix
    rcases List.infix_cons_iff.mp hinfix with hprefix | hrest
    · cases q with
      | nil => exact List.nil_infix
      | cons a q => exact absurd (List.cons_prefix_cons.mp hprefix).1 (by simp_all)
    · exact hrest
  induction t with
  | nil => exact h
  | cons c t ih =>
    by_cases hprefix : q <+: doubleBackslashes (c :: t)
    · exact (prefix_of_doubleBackslashes hq hprefix).isInfix
    · have hrest : q <:+: doubleBackslashes t := by
        rw [doubleBackslashes, List.flatMap_cons] at h hprefix
        split at h
        · exact hcons (hcons h)
        · rename_i hc
          rw [if_neg hc] at hprefix
          exact (List.infix_cons_iff.mp h).resolve_left hprefix
      exact (ih hrest).trans (List.suffix_cons c t).isInfix

theorem not_infix_escaped {t : Text} (h : ¬ List.replicate 5 '"' <:+: t) :
    ¬ tripleQuote <:+: escaped t := by
  rintro ⟨before, after, heq⟩
  have hquotes := (of_escapeTripleQuotes_eq heq.symm).2
  exact h (infix_of_doubleBackslashes (by decide) hquotes)

/-! Lines. -/

def descriptionLines (t : Text) : List Text :=
  Text.lines (Text.wrapped lineWidth lineWidth_pos (escaped t) ++ ['\n'])

/-- A description that is wrapped so that no line of it starts with three quotes. -/
def Unbroken (t : Text) : Prop := ∀ line ∈ descriptionLines t, ¬ tripleQuote <+: line

instance (t : Text) : Decidable (Unbroken t) :=
  inferInstanceAs (Decidable (∀ line ∈ descriptionLines t, ¬ tripleQuote <+: line))

theorem infix_of_mem_descriptionLines {t line : Text} (h : line ∈ descriptionLines t) :
    line <:+: escaped t := by
  by_cases hnil : escaped t = []
  · have hempty : descriptionLines t = [[]] := by rw [descriptionLines, hnil]; rfl
    rw [hempty] at h
    rw [List.mem_singleton.mp h]
    exact List.nil_infix
  · rw [descriptionLines, Text.lines_wrapped hnil] at h
    exact Text.infix_of_mem_rows h

theorem unbroken_of_few_quotes {t : Text} (h : ¬ List.replicate 5 '"' <:+: t) : Unbroken t := by
  intro line hline hquote
  exact not_infix_escaped h (hquote.isInfix.trans (infix_of_mem_descriptionLines hline))

theorem guarded_of_escaped {t line : Text} (h : line <:+: escaped t)
    (hquote : ¬ tripleQuote <+: line) : Guarded line := by
  intro before after heq
  obtain ⟨start, rest, hescaped⟩ := h
  have hsplit : escaped t = (start ++ before) ++ tripleQuote ++ (after ++ rest) := by
    rw [← hescaped, heq]
    simp
  obtain ⟨lead, hlead⟩ := (of_escapeTripleQuotes_eq hsplit).1
  -- The line may start right behind the quote of the escape, but not behind its backslash.
  rcases List.eq_nil_or_concat before with rfl | ⟨more, a, rfl⟩
  · exact absurd ⟨after, heq.symm⟩ hquote
  · have hends : start ++ more ++ [a] = lead ++ ['"'] ++ ['\\'] := by simpa using hlead
    obtain ⟨hmore, ha⟩ := List.append_inj' hends rfl
    obtain rfl := List.singleton_inj.mp ha
    rcases List.eq_nil_or_concat more with rfl | ⟨more, b, rfl⟩
    · exact .inl rfl
    · rw [List.concat_eq_append, ← List.append_assoc] at hmore
      obtain rfl := List.singleton_inj.mp (List.append_inj' hmore rfl).2
      exact .inr ⟨more, by simp⟩

theorem passes_line {t line : Text} (h : line ∈ descriptionLines t)
    (hquote : ¬ tripleQuote <+: line) : Passes (line ++ ['\n']) :=
  (guarded_of_escaped (infix_of_mem_descriptionLines h) hquote).passes

theorem breaks_line {line : Text} (h : tripleQuote <+: line) : Breaks (line ++ ['\n']) := by
  obtain ⟨after, rfl⟩ := h
  exact ⟨[], after ++ ['\n'], by simp, passes_nil⟩

def indentedLine (line : Text) : Text :=
  if line = [] then [] else List.replicate indentation ' ' ++ line

theorem exists_lead_indentedLine (line : Text) :
    ∃ lead, indentedLine line = lead ++ line ∧ Passes lead := by
  rw [indentedLine]
  split
  · rename_i h
    exact ⟨[], h.symm, passes_nil⟩
  · exact ⟨_, rfl, passes_of_not_mem (by decide) (by decide)⟩

theorem passes_indentedLine {t line : Text} (h : line ∈ descriptionLines t)
    (hquote : ¬ tripleQuote <+: line) : Passes (indentedLine line ++ ['\n']) := by
  obtain ⟨lead, heq, hlead⟩ := exists_lead_indentedLine line
  rw [heq, List.append_assoc]
  exact hlead.append (passes_line h hquote)

theorem breaks_indentedLine {line : Text} (h : tripleQuote <+: line) :
    Breaks (indentedLine line ++ ['\n']) := by
  obtain ⟨lead, heq, hlead⟩ := exists_lead_indentedLine line
  rw [heq, List.append_assoc]
  exact hlead.breaks_append (breaks_line h)

theorem descriptionBlock_eq {t first : Text} {rest : List Text}
    (h : descriptionLines t = first :: rest) :
    descriptionBlock t ++ ['\n'] =
      (first ++ ['\n']) ++ rest.flatMap fun line => indentedLine line ++ ['\n'] := by
  have hblock : descriptionBlock t = Text.joined ['\n'] (first :: rest.map indentedLine) := by
    rw [descriptionBlock, Text.indentRest]
    simp only [descriptionLines] at h
    rw [h]
    rfl
  rw [hblock, Text.joined_append_separator (by simp), List.flatMap_cons, List.flatMap_map]

theorem exists_descriptionLines_eq (t : Text) :
    ∃ first rest, descriptionLines t = first :: rest :=
  List.exists_cons_of_ne_nil (Text.lines_ne_nil (by simp))

theorem passes_descriptionBlock {t : Text} (h : Unbroken t) :
    Passes (descriptionBlock t ++ ['\n']) := by
  obtain ⟨first, rest, hlines⟩ := exists_descriptionLines_eq t
  rw [descriptionBlock_eq hlines]
  have hmem : ∀ line, line = first ∨ line ∈ rest → line ∈ descriptionLines t := by
    intro line hline
    rw [hlines]
    exact List.mem_cons.mpr hline
  have hfirst := hmem first (.inl rfl)
  refine (passes_line hfirst (h first hfirst)).append (passes_flatMap fun line hline => ?_)
  have hrest := hmem line (.inr hline)
  exact passes_indentedLine hrest (h line hrest)

theorem breaks_descriptionBlock {t : Text} (h : ¬ Unbroken t) :
    Breaks (descriptionBlock t ++ ['\n']) := by
  obtain ⟨first, rest, hlines⟩ := exists_descriptionLines_eq t
  rw [descriptionBlock_eq hlines]
  by_cases hfirst : tripleQuote <+: first
  · exact (breaks_line hfirst).append _
  · have hpasses := passes_line (hlines ▸ List.mem_cons_self : first ∈ descriptionLines t) hfirst
    apply hpasses.breaks_append
    simp only [Unbroken, hlines, List.forall_mem_cons, hfirst, not_false_eq_true, true_and,
      not_forall, not_not] at h
    obtain ⟨line, hline, hquote⟩ := h
    refine breaks_flatMap (fun other hother => ?_) ⟨line, hline, breaks_indentedLine hquote⟩
    by_cases hbad : tripleQuote <+: other
    · exact .inr (breaks_indentedLine hbad)
    · exact .inl (passes_indentedLine (hlines ▸ List.mem_cons_of_mem _ hother) hbad)

end VocabBindings.Module
