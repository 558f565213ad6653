import VocabBindings.Module.Piece

/-!
Modules as they are read. Three double quotes open a docstring. Inside it a backslash takes the next
character with it, and the first three double quotes in a row that no backslash takes close it. A
printed module is read as it was written exactly if none of its docstrings is closed before its end.
-/

set_option autoImplicit false

namespace VocabBindings.Module

def extend (lead : Text) : List Text → List Text
  | [] => [lead]
  | p :: ps => (lead ++ p) :: ps

/-- The parts between the triple quotes of a text, read from outside or from inside a docstring. -/
def parts : Bool → Text → List Text
  | true, '\\' :: c :: rest => extend ['\\', c] (parts true rest)
  | inside, '"' :: '"' :: '"' :: rest => [] :: parts (!inside) rest
  | inside, c :: rest => extend [c] (parts inside rest)
  | _, [] => [[]]

/-- The parts that pieces are meant to be: code, a docstring, code, and so on. -/
def written : List Piece → List Text
  | [] => [[]]
  | .code t :: rest => extend t (written rest)
  | .docstring body :: rest => [] :: body :: written rest

def codeParts : List Text → List Text
  | [] => []
  | [code] => [code]
  | code :: _ :: rest => code :: codeParts rest

theorem extend_nil {ps : List Text} (h : ps ≠ []) : extend [] ps = ps := by
  cases ps with
  | nil => exact absurd rfl h
  | cons p ps => rfl

theorem extend_append (a b : Text) (ps : List Text) :
    extend (a ++ b) ps = extend a (extend b ps) := by
  cases ps with
  | nil => rfl
  | cons p ps => simp [extend]

theorem extend_ne_nil (lead : Text) (ps : List Text) : extend lead ps ≠ [] := by
  cases ps <;> simp [extend]

theorem extend_inj {lead : Text} {ps qs : List Text} (hp : ps ≠ []) (hq : qs ≠ []) :
    extend lead ps = extend lead qs ↔ ps = qs := by
  cases ps with
  | nil => exact absurd rfl hp
  | cons p ps =>
    cases qs with
    | nil => exact absurd rfl hq
    | cons q qs => simp [extend]

theorem parts_ne_nil (inside : Bool) (t : Text) : parts inside t ≠ [] := by
  fun_cases parts inside t with
  | case1 => exact extend_ne_nil _ _
  | case2 => simp
  | case3 => exact extend_ne_nil _ _
  | case4 => simp

theorem written_ne_nil (pieces : List Piece) : written pieces ≠ [] := by
  fun_cases written pieces with
  | case1 => simp
  | case2 => exact extend_ne_nil _ _
  | case3 => simp

theorem parts_tripleQuote (inside : Bool) (rest : Text) :
    parts inside (tripleQuote ++ rest) = [] :: parts (!inside) rest := by
  cases inside <;> rfl

theorem parts_escape (c : Char) (rest : Text) :
    parts true ('\\' :: c :: rest) = extend ['\\', c] (parts true rest) := rfl

theorem parts_cons {inside : Bool} {c : Char} {rest : Text} (hescape : inside = true → c ≠ '\\')
    (hquote : ¬ tripleQuote <+: c :: rest) :
    parts inside (c :: rest) = extend [c] (parts inside rest) := by
  rw [parts]
  · rintro after rfl rfl
    exact hquote ⟨after, rfl⟩
  · rintro d after hinside rfl -
    exact hescape hinside rfl

/-- A text that the reader of a docstring goes through without an end, and after which it starts
anew. -/
def Passes (t : Text) : Prop := ∀ rest, parts true (t ++ rest) = extend t (parts true rest)

def Breaks (t : Text) : Prop := ∃ before after, t = before ++ tripleQuote ++ after ∧ Passes before

theorem passes_nil : Passes [] := fun rest => (extend_nil (parts_ne_nil true rest)).symm

theorem Passes.append {t u : Text} (ht : Passes t) (hu : Passes u) : Passes (t ++ u) := by
  intro rest
  rw [List.append_assoc, ht, hu, extend_append]

theorem passes_singleton {c : Char} (hquote : c ≠ '"') (hescape : c ≠ '\\') : Passes [c] := by
  intro rest
  refine parts_cons (fun _ => hescape) ?_
  rintro ⟨after, h⟩
  exact hquote (List.cons.inj h).1.symm

theorem passes_of_not_mem {t : Text} (hquote : '"' ∉ t) (hescape : '\\' ∉ t) : Passes t := by
  induction t with
  | nil => exact passes_nil
  | cons c rest ih =>
    simp only [List.mem_cons, not_or] at hquote hescape
    exact (passes_singleton (Ne.symm hquote.1) (Ne.symm hescape.1)).append (ih hquote.2 hescape.2)

theorem Passes.breaks_append {t u : Text} (ht : Passes t) (hu : Breaks u) : Breaks (t ++ u) := by
  obtain ⟨before, after, rfl, hbefore⟩ := hu
  exact ⟨t ++ before, after, by simp, ht.append hbefore⟩

theorem Breaks.append {t : Text} (ht : Breaks t) (u : Text) : Breaks (t ++ u) := by
  obtain ⟨before, after, rfl, hbefore⟩ := ht
  exact ⟨before, after ++ u, by simp, hbefore⟩

theorem passes_flatMap {α : Type} {f : α → Text} {as : List α} (h : ∀ a ∈ as, Passes (f a)) :
    Passes (as.flatMap f) := by
  induction as with
  | nil => exact passes_nil
  | cons a as ih =>
    exact (h a List.mem_cons_self).append (ih fun b hb => h b (List.mem_cons_of_mem _ hb))

theorem breaks_flatMap {α : Type} {f : α → Text} {as : List α}
    (h : ∀ a ∈ as, Passes (f a) ∨ Breaks (f a)) (hbreaks : ∃ a ∈ as, Breaks (f a)) :
    Breaks (as.flatMap f) := by
  induction as with
  | nil => simp at hbreaks
  | cons a as ih =>
    rcases h a List.mem_cons_self with ha | ha
    · obtain ⟨b, hb, hbroken⟩ := hbreaks
      rcases List.mem_cons.mp hb with rfl | hb
      · exact hbroken.append _
      · exact ha.breaks_append (ih (fun c hc => h c (List.mem_cons_of_mem _ hc)) ⟨b, hb, hbroken⟩)
    · exact ha.append _

theorem tripleQuote_prefix_of_append {t more : Text} {c : Char} (hc : c ≠ '"')
    (h : tripleQuote <+: t ++ c :: more) : tripleQuote <+: t := by
  rcases t with _ | ⟨x, _ | ⟨y, _ | ⟨z, t⟩⟩⟩ <;> simp [tripleQuote, hc.symm] at h ⊢
  exact h

theorem tripleQuote_prefix_append {t more : Text} (h : tripleQuote <+: t ++ more) (after : Text) :
    tripleQuote <+: t ++ tripleQuote ++ after := by
  rcases t with _ | ⟨x, _ | ⟨y, _ | ⟨z, t⟩⟩⟩ <;> simp [tripleQuote] at h ⊢
  · exact h.1
  · exact ⟨h.1, h.2.1⟩
  · exact h

theorem Breaks.cons {c : Char} {rest : Text} (h : Breaks rest) (hescape : c ≠ '\\') :
    Breaks (c :: rest) := by
  obtain ⟨before, after, rfl, hbefore⟩ := h
  by_cases hquote : tripleQuote <+: c :: (before ++ tripleQuote ++ after)
  · obtain ⟨more, hmore⟩ := hquote
    exact ⟨[], more, hmore.symm, passes_nil⟩
  · refine ⟨c :: before, after, rfl, fun more => ?_⟩
    have hnot : ¬ tripleQuote <+: c :: (before ++ more) := fun hprefix =>
      hquote (@tripleQuote_prefix_append (c :: before) more hprefix after)
    rw [List.cons_append, parts_cons (fun _ => hescape) hnot, hbefore, ← extend_append]
    rfl

/-- A text in which no docstring ends is gone through with one more character behind it. Without
that character a backslash or quotes at its end could take what follows. -/
theorem passes_append_singleton {t : Text} (h : ¬ Breaks t) {c : Char} (hquote : c ≠ '"')
    (hescape : c ≠ '\\') : Passes (t ++ [c]) := by
  intro more
  -- An escape takes two characters at once, so the induction is on the length.
  induction hn : t.length using Nat.strongRecOn generalizing t with
  | ind n ih =>
    cases t with
    | nil => exact passes_singleton hquote hescape more
    | cons x rest =>
      simp only [List.length_cons] at hn
      by_cases hx : x = '\\'
      · subst hx
        cases rest with
        | nil => exact parts_escape c more
        | cons y rest =>
          simp only [List.length_cons] at hn
          have hpasses : Passes ['\\', y] := parts_escape y
          have hrest := ih rest.length (by omega) (fun hb => h (hpasses.breaks_append hb)) rfl
          simp only [List.cons_append, parts_escape, hrest, ← extend_append, List.nil_append]
      · have hrest := ih rest.length (by omega) (fun hb => h (hb.cons hx)) rfl
        have hnot : ¬ tripleQuote <+: x :: (rest ++ [c] ++ more) := by
          intro hprefix
          have hstart : tripleQuote <+: x :: rest := by
            apply @tripleQuote_prefix_of_append _ more _ hquote
            simpa using hprefix
          obtain ⟨after, hafter⟩ := hstart
          exact h ⟨[], after, hafter.symm, passes_nil⟩
        simp only [List.cons_append, parts_cons (fun _ => hx) hnot, hrest, ← extend_append,
          List.nil_append]

/-- Three quotes in a row stand only right behind a backslash that no other backslash takes. -/
def Guarded (t : Text) : Prop :=
  ∀ before after, t = before ++ tripleQuote ++ after →
    before = ['\\'] ∨ ∃ lead, before = lead ++ ['"', '\\']

theorem Guarded.of_escape {c : Char} {rest : Text} (h : Guarded ('\\' :: c :: rest)) :
    Guarded rest := by
  rintro before after rfl
  rcases h ('\\' :: c :: before) after rfl with hc | ⟨lead, hlead⟩
  · simp at hc
  · rcases lead with _ | ⟨x, _ | ⟨y, lead⟩⟩
    · simp at hlead
    · simp at hlead
      simp [hlead]
    · simp at hlead
      exact .inr ⟨lead, hlead.2.2⟩

theorem Guarded.of_cons {c : Char} {rest : Text} (h : Guarded (c :: rest)) (hc : c ≠ '\\') :
    Guarded rest := by
  rintro before after rfl
  rcases h (c :: before) after rfl with hhead | ⟨lead, hlead⟩
  · exact absurd (List.cons.inj hhead).1 hc
  · rcases lead with _ | ⟨x, lead⟩
    · simp at hlead
      simp [hlead]
    · exact .inr ⟨lead, (List.cons.inj hlead).2⟩

theorem Guarded.not_prefix {t : Text} (h : Guarded t) : ¬ tripleQuote <+: t := by
  rintro ⟨after, rfl⟩
  rcases h [] after rfl with hhead | ⟨lead, hlead⟩
  · simp at hhead
  · simp at hlead

theorem Guarded.passes {t : Text} (h : Guarded t) : Passes (t ++ ['\n']) := by
  intro more
  -- An escape takes two characters at once, so the induction is on the length.
  induction hn : t.length using Nat.strongRecOn generalizing t with
  | ind n ih =>
    cases t with
    | nil => exact passes_singleton (by decide) (by decide) more
    | cons c rest =>
      simp only [List.length_cons] at hn
      by_cases hc : c = '\\'
      · subst hc
        cases rest with
        | nil => exact parts_escape '\n' more
        | cons d rest =>
          simp only [List.length_cons] at hn
          have hrest := ih rest.length (by omega) h.of_escape rfl
          simp only [List.cons_append, parts_escape, hrest, ← extend_append, List.nil_append]
      · have hrest := ih rest.length (by omega) (h.of_cons hc) rfl
        have hquote : ¬ tripleQuote <+: c :: (rest ++ ['\n'] ++ more) := by
          intro hprefix
          apply h.not_prefix
          apply @tripleQuote_prefix_of_append _ more '\n' (by decide)
          simpa using hprefix
        simp only [List.cons_append, parts_cons (fun _ => hc) hquote, hrest, ← extend_append,
          List.nil_append]

theorem Passes.parts_body {body : Text} (h : Passes body) (rest : Text) :
    parts true (body ++ (tripleQuote ++ rest)) = body :: parts false rest := by
  rw [h, parts_tripleQuote]
  simp [extend]

theorem Breaks.head?_parts {body : Text} (h : Breaks body) (rest : Text) :
    (parts true (body ++ rest)).head? ≠ some body := by
  obtain ⟨before, after, rfl, hbefore⟩ := h
  rw [List.append_assoc, List.append_assoc, hbefore, parts_tripleQuote]
  intro hhead
  have hlength := congrArg List.length (Option.some.inj hhead)
  simp [tripleQuote] at hlength

theorem Breaks.not_passes {body : Text} (h : Breaks body) : ¬ Passes body := by
  intro hpasses
  apply h.head?_parts (tripleQuote ++ [])
  rw [hpasses.parts_body, List.head?_cons]

/-- A text that the reader of a docstring goes through under a condition, and in which it meets the
end otherwise. -/
def PassesIff (t : Text) (p : Prop) : Prop := p ∧ Passes t ∨ ¬ p ∧ Breaks t

namespace PassesIff

variable {t u : Text} {p q : Prop}

theorem append_singleton (t : Text) {c : Char} (hquote : c ≠ '"') (hescape : c ≠ '\\') :
    PassesIff (t ++ [c]) (¬ Breaks t) := by
  by_cases h : Breaks t
  · exact .inr ⟨not_not_intro h, h.append [c]⟩
  · exact .inl ⟨h, passes_append_singleton h hquote hescape⟩

theorem append (ht : PassesIff t p) (hu : PassesIff u q) : PassesIff (t ++ u) (p ∧ q) := by
  rcases ht with ⟨hp, ht⟩ | ⟨hp, ht⟩
  · rcases hu with ⟨hq, hu⟩ | ⟨hq, hu⟩
    · exact .inl ⟨⟨hp, hq⟩, ht.append hu⟩
    · exact .inr ⟨fun h => hq h.2, ht.breaks_append hu⟩
  · exact .inr ⟨fun h => hp h.1, ht.append u⟩

theorem behind (ht : Passes t) (hu : PassesIff u q) : PassesIff (t ++ u) q :=
  hu.imp (And.imp_right ht.append) (And.imp_right ht.breaks_append)

theorem before (ht : PassesIff t p) (hu : Passes u) : PassesIff (t ++ u) p :=
  ht.imp (And.imp_right fun h => h.append hu) (And.imp_right fun h => h.append u)

theorem passes_or_breaks (h : PassesIff t p) : Passes t ∨ Breaks t :=
  h.imp And.right And.right

theorem passes_iff (h : PassesIff t p) : Passes t ↔ p := by
  rcases h with ⟨hp, ht⟩ | ⟨hp, ht⟩
  · exact iff_of_true ht hp
  · exact iff_of_false ht.not_passes hp

end PassesIff

theorem parts_code {t : Text} (h : '"' ∉ t) (rest : Text) :
    parts false (t ++ rest) = extend t (parts false rest) := by
  induction t with
  | nil => exact (extend_nil (parts_ne_nil false rest)).symm
  | cons c t ih =>
    simp only [List.mem_cons, not_or] at h
    have hquote : ¬ tripleQuote <+: c :: (t ++ rest) :=
      fun ⟨_, hc⟩ => h.1 (List.cons.inj hc).1
    rw [List.cons_append, parts_cons (by simp) hquote, ih h.2, ← extend_append]
    rfl

theorem parts_printed_iff {pieces : List Piece} (hcode : ∀ t, .code t ∈ pieces → '"' ∉ t)
    (hbody : ∀ body, .docstring body ∈ pieces → Passes body ∨ Breaks body) :
    parts false (printed pieces) = written pieces ↔
      ∀ body, .docstring body ∈ pieces → Passes body := by
  induction pieces with
  | nil => simp [printed, written, parts]
  | cons piece rest ih =>
    have hrest := ih (fun t ht => hcode t (List.mem_cons_of_mem _ ht))
      (fun body hb => hbody body (List.mem_cons_of_mem _ hb))
    cases piece with
    | code t =>
      have hprint : printed (.code t :: rest) = t ++ printed rest := rfl
      rw [hprint, parts_code (hcode t List.mem_cons_self), written,
        extend_inj (parts_ne_nil _ _) (written_ne_nil _), hrest]
      simp
    | docstring body =>
      have hprint : printed (.docstring body :: rest) =
          tripleQuote ++ (body ++ (tripleQuote ++ printed rest)) := by
        simp [printed, Piece.text]
      rw [hprint, parts_tripleQuote, written]
      simp only [List.mem_cons, Piece.docstring.injEq, forall_eq_or_imp, List.cons.injEq, true_and,
        Bool.not_false]
      rcases hbody body List.mem_cons_self with hpasses | hbreaks
      · simp only [hpasses.parts_body, List.cons.injEq, hrest, hpasses, true_and]
      · -- The first docstring is cut short already, whatever comes behind it.
        constructor
        · intro heq
          have hhead := hbreaks.head?_parts (tripleQuote ++ printed rest)
          exact absurd (by rw [heq, List.head?_cons]) hhead
        · exact fun hall => absurd hall.1 hbreaks.not_passes

def Piece.withoutBody : Piece → Piece
  | code t => code t
  | docstring _ => docstring []

theorem codeParts_extend (lead : Text) {ps : List Text} (h : ps ≠ []) :
    codeParts (extend lead ps) = extend lead (codeParts ps) := by
  fun_cases codeParts ps with
  | case1 => exact absurd rfl h
  | case2 => rfl
  | case3 => rfl

/-- What is outside the docstrings does not depend on what is inside. -/
theorem codeParts_written (pieces : List Piece) :
    codeParts (written (pieces.map Piece.withoutBody)) = codeParts (written pieces) := by
  induction pieces with
  | nil => rfl
  | cons piece rest ih =>
    cases piece with
    | code t =>
      show codeParts (extend t _) = codeParts (extend t _)
      rw [codeParts_extend t (written_ne_nil _), codeParts_extend t (written_ne_nil _), ih]
    | docstring body => exact congrArg ([] :: ·) ih

end VocabBindings.Module
