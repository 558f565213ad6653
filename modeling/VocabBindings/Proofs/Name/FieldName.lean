import VocabBindings.Proofs.Name.Identifier

/-!
Labels that fall together. Snake case marks the places where words start, in one reading of the label
instead of two; the identifier made of it is the label's spelling, shielded where that is a reserved
word or starts with a digit. Two labels have one field name exactly if they are spelled alike, and
labels that are spelled alike have the same letters and digits, case aside.
-/

set_option autoImplicit false

namespace VocabBindings.Name

def isSmallOrDigit (c : Char) : Bool := isSmall c || isDigit c

/-- Whether a word of a name starts behind a character: with a capital letter behind a small letter
or a digit, and with a capital and a small letter behind any character but a line feed. -/
def wordFollows (c : Char) : Text → Bool
  | [] => false
  | u :: rest => isCapital u && (isSmallOrDigit c || (c ≠ '\n' && startsSmall rest))

def marked : Text → Text
  | [] => []
  | c :: rest => if wordFollows c rest then c :: '_' :: marked rest else c :: marked rest

theorem isCapital_eq_false {c : Char} (h : isSmall c) : isCapital c = false := by
  simp only [isSmall, isCapital, Bool.and_eq_true, decide_eq_true_eq, Bool.and_eq_false_iff,
    decide_eq_false_iff_not] at h ⊢
  exact .inr fun hc => absurd (Char.le_trans h.1 hc) (by decide)

theorem markCapitals_cons_cons (c u : Char) (rest : Text) :
    markCapitals (c :: u :: rest) =
      if (isSmall c || isDigit c) && isCapital u then c :: '_' :: markCapitals (u :: rest)
      else c :: markCapitals (u :: rest) := by
  rw [markCapitals]

theorem exists_markWords_cons (inWord : Bool) (c : Char) (rest : Text) :
    ∃ more, markWords inWord (c :: rest) = c :: more := by
  unfold markWords
  split
  · rename_i heq
    obtain ⟨rfl, rfl⟩ := List.cons.inj heq
    split
    · exact ⟨_, rfl⟩
    · split <;> exact ⟨_, rfl⟩
  · exact ⟨rest, rfl⟩

/-- Both passes together mark the starts of words. Where the first pass stands does not matter: what
it leaves out inside a word, the second one marks. -/
theorem markCapitals_markWords (inWord : Bool) (t : Text) :
    markCapitals (markWords inWord t) = marked t := by
  fun_induction markWords inWord t with
  | case1 inWord c u rest hsmall ih =>
    obtain ⟨more, hmore⟩ := exists_markWords_cons true u rest
    rw [hmore] at ih ⊢
    simp only [Bool.and_eq_true] at hsmall
    rw [markCapitals_cons_cons, ih]
    simp [marked, wordFollows, isSmallOrDigit, hsmall.2]
  | case2 inWord c u rest hsmall hword ih =>
    -- The second pass sees an underscore here and marks nothing.
    obtain ⟨v, more, rfl⟩ : ∃ v more, rest = v :: more := by
      cases rest with
      | nil => simp [startsSmall] at hword
      | cons v more => exact ⟨v, more, rfl⟩
    obtain ⟨tail, htail⟩ := exists_markWords_cons true v more
    simp only [startsSmall, Bool.and_eq_true] at hword
    have hv : isCapital v = false := isCapital_eq_false hword.2
    have hfollows : wordFollows c (u :: v :: more) = true := by
      simp [wordFollows, startsSmall, hword]
    have hnot : wordFollows u (v :: more) = false := by simp [wordFollows, hv]
    have hunderscore : (isSmall '_' || isDigit '_') = false ∧ isCapital '_' = false := by decide
    rw [htail] at ih ⊢
    rw [marked, if_pos hfollows, marked, hnot]
    simp [markCapitals_cons_cons, hunderscore, hv, ih]
  | case3 inWord c u rest hsmall hword ih =>
    obtain ⟨more, hmore⟩ := exists_markWords_cons false u rest
    rw [hmore] at ih ⊢
    have hfollows : wordFollows c (u :: rest) = ((isSmall c || isDigit c) && isCapital u) := by
      simp only [wordFollows, isSmallOrDigit]
      grind
    rw [markCapitals_cons_cons, ih, ← hfollows]
    rfl
  | case4 inWord t hshort =>
    rcases t with _ | ⟨c, _ | ⟨u, rest⟩⟩
    · rfl
    · rfl
    · exact absurd rfl (hshort c u rest)

def replaced (c : Char) : Char := if isIdentifierChar c then c else '_'

def spelledChar (c : Char) : Text := (Text.lowerChar c).map replaced

/-- A name as it is spelled in an identifier. It need not be one yet: it may start with a digit or be
a reserved word. -/
def spelled (name : Text) : Text := (marked name).flatMap spelledChar

def shielded (t : Text) : Text := shieldReserved (shieldDigit t)

theorem map_replaced_lowerFrom (afterCased : Bool) (t : Text) :
    (Text.lowerFrom afterCased t).map replaced = t.flatMap spelledChar := by
  induction t generalizing afterCased with
  | nil => rfl
  | cons c rest ih =>
    rw [Text.lowerFrom, List.map_append, ih, List.flatMap_cons]
    congr 1
    split
    · subst c
      split <;> decide
    · rfl

theorem identifier_eq (name : Text) : identifier name = shielded (name.map replaced) := rfl

theorem map_replaced {t : Text} (h : ∀ c ∈ t, isIdentifierChar c) : t.map replaced = t := by
  have hid : t.map replaced = t.map id := List.map_congr_left fun c hc => if_pos (h c hc)
  rw [hid, List.map_id]

theorem fieldName_eq (label : Text) : fieldName label = shielded (spelled label) := by
  have hspelled : (snakeCase label).map replaced = spelled label := by
    rw [snakeCase, Text.lower, markCapitals_markWords, map_replaced_lowerFrom, spelled]
  rw [← hspelled]
  rfl

theorem shieldDigit_of_not_isDigit {t : Text} (h : ∀ c ∈ t.head?, isDigit c = false) :
    shieldDigit t = t := by
  cases t with
  | nil => rfl
  | cons c rest => simp [shieldDigit, h c rfl]

theorem shielded_shielded (t : Text) : shielded (shielded t) = shielded t := by
  have hdigit : shieldDigit (shielded t) = shielded t := by
    refine shieldDigit_of_not_isDigit fun c hc => ?_
    rw [shielded, head?_shieldReserved] at hc
    exact not_isDigit_of_mem_head?_shieldDigit hc
  have hfree : shielded t ∉ reservedWords := shieldReserved_not_mem_reservedWords _
  rw [shielded, hdigit, shieldReserved, if_neg hfree]

theorem shielded_cases (t : Text) :
    shielded t = t ∨ t ∈ reservedWords ∧ shielded t = t ++ ['_'] ∨
      (∃ c ∈ t.head?, isDigit c) ∧ shielded t = '_' :: t := by
  cases t with
  | nil => decide
  | cons c rest =>
    by_cases hc : isDigit c
    · have hlone : ∀ word ∈ reservedWords, word.head? = some '_' → word = ['_'] := by decide
      have hword : '_' :: c :: rest ∉ reservedWords := fun hm => by simpa using hlone _ hm rfl
      simp [shielded, shieldDigit, shieldReserved, hc, hword]
    · by_cases hword : c :: rest ∈ reservedWords <;>
        simp [shielded, shieldDigit, shieldReserved, hc, hword]

theorem shielded_eq_iff {t u : Text} :
    shielded t = shielded u ↔ t = u ∨ shielded t = u ∨ t = shielded u := by
  -- No reserved word with an underscore behind it is a digit with one in front of it.
  have hapart : ∀ {word other : Text}, word ∈ reservedWords → (∃ c ∈ other.head?, isDigit c) →
      word ++ ['_'] ≠ '_' :: other := by
    have hrest : ∀ word ∈ reservedWords, ∀ other, word ++ ['_'] = '_' :: other → other = ['_'] := by
      simp [reservedWords]
    rintro word other hword ⟨c, hc, hdigit⟩ heq
    obtain rfl := hrest word hword other heq
    obtain rfl : '_' = c := by simpa using hc
    exact absurd hdigit (by decide)
  constructor
  · intro h
    rcases shielded_cases t with ht | ⟨hword, ht⟩ | ⟨hdigit, ht⟩
    · exact .inr (.inr (ht ▸ h))
    · rcases shielded_cases u with hu | ⟨-, hu⟩ | ⟨hdigit, hu⟩
      · exact .inr (.inl (h.trans hu))
      · exact .inl (List.append_cancel_right (ht ▸ hu ▸ h))
      · exact absurd (ht ▸ hu ▸ h) (hapart hword hdigit)
    · rcases shielded_cases u with hu | ⟨hword, hu⟩ | ⟨-, hu⟩
      · exact .inr (.inl (h.trans hu))
      · exact absurd (ht ▸ hu ▸ h).symm (hapart hword hdigit)
      · exact .inl (List.cons.inj (ht ▸ hu ▸ h)).2
  · rintro (rfl | rfl | rfl)
    · rfl
    · exact (shielded_shielded t).symm
    · exact shielded_shielded u

/-- Two labels are spelled alike, or one is spelled like the identifier that the other becomes by an
underscore behind a reserved word or in front of a digit. -/
def Alike (a b : Text) : Prop :=
  spelled a = spelled b ∨ shielded (spelled a) = spelled b ∨ spelled a = shielded (spelled b)

instance (a b : Text) : Decidable (Alike a b) := inferInstanceAs (Decidable (_ ∨ _ ∨ _))

theorem fieldName_eq_iff {a b : Text} : fieldName a = fieldName b ↔ Alike a b := by
  rw [fieldName_eq, fieldName_eq, shielded_eq_iff, Alike]

def letters (name : Text) : Text := (Text.lower name).filter isSmallOrDigit

theorem filter_map_replaced (t : Text) :
    (t.map replaced).filter isSmallOrDigit = t.filter isSmallOrDigit := by
  have hunderscore : isSmallOrDigit '_' = false := by decide
  induction t with
  | nil => rfl
  | cons c rest ih =>
    by_cases hc : isIdentifierChar c
    · simp only [List.map_cons, replaced, if_pos hc, List.filter_cons, ← ih]
    · have hnone : isSmallOrDigit c = false := by
        simp only [isIdentifierChar, isSmallOrDigit] at hc ⊢
        grind
      simp [replaced, hc, hnone, hunderscore, ← ih]

theorem flatMap_marked {f : Char → Text} (h : f '_' = []) (name : Text) :
    (marked name).flatMap f = name.flatMap f := by
  induction name with
  | nil => rfl
  | cons c rest ih =>
    rw [marked]
    split <;> simp [h, ih]

theorem filter_spelled (name : Text) : (spelled name).filter isSmallOrDigit = letters name := by
  have hunderscore : (spelledChar '_').filter isSmallOrDigit = [] := by decide
  have hletters : letters name = (name.flatMap spelledChar).filter isSmallOrDigit := by
    rw [letters, ← filter_map_replaced, Text.lower, map_replaced_lowerFrom]
  rw [hletters, spelled, List.filter_flatMap, List.filter_flatMap, flatMap_marked hunderscore]

theorem filter_shielded (t : Text) :
    (shielded t).filter isSmallOrDigit = t.filter isSmallOrDigit := by
  have hunderscore : isSmallOrDigit '_' = false := by decide
  rcases shielded_cases t with ht | ⟨-, ht⟩ | ⟨-, ht⟩ <;> rw [ht] <;> simp [hunderscore]

theorem filter_fieldName (label : Text) :
    (fieldName label).filter isSmallOrDigit = letters label := by
  rw [fieldName_eq, filter_shielded, filter_spelled]

theorem letters_eq_of_alike {a b : Text} (h : Alike a b) : letters a = letters b := by
  rw [← filter_fieldName, ← filter_fieldName, fieldName_eq_iff.mpr h]

end VocabBindings.Name
