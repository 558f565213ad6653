import VocabBindings.Text.Markup

/-!
Texts without their tags. From its start every text is cut at its tags: the text in front of a tag
holds no `<`, the tag no `>` but its last character, and behind the last tag no `<` is followed by a
`>`. What is in front of the tags and behind the last one holds no new tag when it is put together.
-/

set_option autoImplicit false

namespace VocabBindings.Text

/-- A text with a `<` and, at any distance behind it, a `>`. -/
def HasTag (t : Text) : Prop := ['<', '>'].Sublist t

instance (t : Text) : Decidable (HasTag t) := inferInstanceAs (Decidable (List.Sublist _ _))

theorem hasTag_append_iff {lead : Text} (h : '<' ∉ lead) (t : Text) :
    HasTag (lead ++ t) ↔ HasTag t := by
  induction lead with
  | nil => rfl
  | cons c lead ih =>
    simp only [List.mem_cons, not_or] at h
    rw [← ih h.2]
    refine ⟨fun htag => ?_, fun htag => htag.cons c⟩
    cases htag with
    | cons _ htag => exact htag
    | cons_cons _ htag => exact absurd rfl h.1

theorem hasTag_cons_iff {t : Text} : HasTag ('<' :: t) ↔ '>' ∈ t := by
  rw [HasTag, List.cons_sublist_cons, List.singleton_sublist]

structure Tagged where
  lead : Text
  inner : Text
  not_mem_lead : '<' ∉ lead
  not_mem_inner : '>' ∉ inner

def Tagged.text (s : Tagged) : Text := s.lead ++ '<' :: s.inner ++ ['>']

structure Cut where
  tags : List Tagged
  rest : Text
  untagged : ¬ HasTag rest

namespace Cut

def text (cut : Cut) : Text := cut.tags.flatMap Tagged.text ++ cut.rest

def plain (cut : Cut) : Text := cut.tags.flatMap Tagged.lead ++ cut.rest

theorem mem_text_of_mem_plain {cut : Cut} {c : Char} (h : c ∈ cut.plain) : c ∈ cut.text := by
  rcases List.mem_append.mp h with h | h
  · obtain ⟨tag, htag, hc⟩ := List.mem_flatMap.mp h
    exact List.mem_append_left _
      (List.mem_flatMap.mpr ⟨tag, htag, by simp [Tagged.text, hc]⟩)
  · exact List.mem_append_right _ h

theorem not_hasTag_plain (cut : Cut) : ¬ HasTag cut.plain := by
  have hleads : '<' ∉ cut.tags.flatMap Tagged.lead := by
    intro h
    obtain ⟨tag, -, hmem⟩ := List.mem_flatMap.mp h
    exact tag.not_mem_lead hmem
  rw [plain, hasTag_append_iff hleads]
  exact cut.untagged

end Cut

theorem exists_cut (t : Text) : ∃ cut : Cut, cut.text = t := by
  -- What comes next starts behind a tag, so the induction is on the length.
  induction hn : t.length using Nat.strongRecOn generalizing t with
  | ind n ih =>
    by_cases h : HasTag t
    · have hopen : '<' ∈ t := h.subset List.mem_cons_self
      obtain ⟨lead, after, rfl, hlead⟩ := List.eq_append_cons_of_mem hopen
      rw [hasTag_append_iff hlead, hasTag_cons_iff] at h
      obtain ⟨inner, more, rfl, hinner⟩ := List.eq_append_cons_of_mem h
      obtain ⟨cut, rfl⟩ := ih more.length (by simp [← hn]; omega) more rfl
      refine ⟨⟨⟨lead, inner, hlead, hinner⟩ :: cut.tags, cut.rest, cut.untagged⟩, ?_⟩
      simp [Cut.text, Tagged.text]
    · exact ⟨⟨[], t, h⟩, rfl⟩

/-! The scan. -/

theorem dropTags_append {lead : Text} (h : '<' ∉ lead) (t : Text) :
    dropTags none (lead ++ t) = lead ++ dropTags none t := by
  induction lead with
  | nil => rfl
  | cons c lead ih =>
    simp only [List.mem_cons, not_or] at h
    rw [List.cons_append, dropTags, if_neg (Ne.symm h.1), ih h.2]
    rfl

theorem dropTags_closed {inner : Text} (h : '>' ∉ inner) (opened t : Text) :
    dropTags (some opened) (inner ++ '>' :: t) = dropTags none t := by
  induction inner generalizing opened with
  | nil => simp [dropTags]
  | cons c inner ih =>
    simp only [List.mem_cons, not_or] at h
    rw [List.cons_append, dropTags, if_neg (Ne.symm h.1), ih h.2]

theorem dropTags_open {t : Text} (h : '>' ∉ t) (opened : Text) :
    dropTags (some opened) t = opened.reverse ++ t := by
  induction t generalizing opened with
  | nil => simp [dropTags]
  | cons c t ih =>
    simp only [List.mem_cons, not_or] at h
    rw [dropTags, if_neg (Ne.symm h.1), ih h.2]
    simp

theorem dropTags_tagged (tag : Tagged) (t : Text) :
    dropTags none (tag.text ++ t) = tag.lead ++ dropTags none t := by
  have htext : tag.text ++ t = tag.lead ++ '<' :: (tag.inner ++ '>' :: t) := by
    simp [Tagged.text]
  rw [htext, dropTags_append tag.not_mem_lead, dropTags, if_pos rfl,
    dropTags_closed tag.not_mem_inner]

theorem dropTags_of_not_hasTag {t : Text} (h : ¬ HasTag t) : dropTags none t = t := by
  by_cases hopen : '<' ∈ t
  · obtain ⟨lead, after, rfl, hlead⟩ := List.eq_append_cons_of_mem hopen
    rw [hasTag_append_iff hlead, hasTag_cons_iff] at h
    rw [dropTags_append hlead, dropTags, if_pos rfl, dropTags_open h]
    rfl
  · simpa [dropTags] using dropTags_append hopen []

theorem dropTags_text (cut : Cut) : dropTags none cut.text = cut.plain := by
  obtain ⟨tags, rest, hrest⟩ := cut
  induction tags with
  | nil => exact dropTags_of_not_hasTag hrest
  | cons tag tags ih =>
    rw [Cut.text] at ih ⊢
    rw [List.flatMap_cons, List.append_assoc, dropTags_tagged, ih]
    simp [Cut.plain]

theorem withoutMarkup_text (cut : Cut) : withoutMarkup cut.text = trim cut.plain := by
  rw [withoutMarkup, dropTags_text]

theorem mem_of_mem_withoutMarkup {t : Text} {c : Char} (h : c ∈ withoutMarkup t) : c ∈ t := by
  obtain ⟨cut, rfl⟩ := exists_cut t
  rw [withoutMarkup_text] at h
  exact Cut.mem_text_of_mem_plain ((trim_isInfix _).subset h)

theorem withoutMarkup_of_not_hasTag {t : Text} (h : ¬ HasTag t) : withoutMarkup t = trim t := by
  rw [withoutMarkup, dropTags_of_not_hasTag h]

theorem not_hasTag_withoutMarkup (t : Text) : ¬ HasTag (withoutMarkup t) := by
  obtain ⟨cut, rfl⟩ := exists_cut t
  rw [withoutMarkup_text]
  exact fun h => cut.not_hasTag_plain (h.trans (trim_isInfix _).sublist)

theorem withoutMarkup_withoutMarkup (t : Text) :
    withoutMarkup (withoutMarkup t) = withoutMarkup t := by
  rw [withoutMarkup_of_not_hasTag (not_hasTag_withoutMarkup t)]
  exact trim_of_isTrimmed (isTrimmed_trim _)

/-- Without its markup a text is what is left of it without its tags, trimmed. It has no tag and no
blank character at an end, so that it stays when its markup is taken away again, and a text without
tags is trimmed only. -/
theorem markup_of_withoutMarkup (t : Text) :
    ¬ HasTag (withoutMarkup t) ∧ IsTrimmed (withoutMarkup t) ∧
      withoutMarkup (withoutMarkup t) = withoutMarkup t ∧
      (∃ cut : Cut, cut.text = t ∧ withoutMarkup t = trim cut.plain) ∧
      (¬ HasTag t → withoutMarkup t = trim t) := by
  obtain ⟨cut, hcut⟩ := exists_cut t
  exact ⟨not_hasTag_withoutMarkup t, isTrimmed_trim _, withoutMarkup_withoutMarkup t,
    ⟨cut, hcut, hcut ▸ withoutMarkup_text cut⟩, withoutMarkup_of_not_hasTag⟩

theorem markup_of_withoutMarkup_comparison :
    ¬ HasTag " x > y < z\n".toList ∧ withoutMarkup " x > y < z\n".toList = "x > y < z".toList := by
  have h : ¬ HasTag " x > y < z\n".toList := by decide
  exact ⟨h, (markup_of_withoutMarkup _).2.2.2.2 h⟩

/-- The tag ends at the first `>`, whatever has been opened in it. -/
example : withoutMarkup " a < b\n<c> d > <e".toList = "a  d > <e".toList := by decide

end VocabBindings.Text
