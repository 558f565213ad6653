import VocabBindings.Resolve.Outline

/-!
Identifiers of the printed modules. What a name is turned into is an identifier unless the name is
empty: invalid characters, a digit at the start and reserved words are taken care of, and only the
empty name stays empty.
-/

set_option autoImplicit false

namespace VocabBindings

theorem Text.lower_ne_nil {t : Text} (h : t ≠ []) : lower t ≠ [] := by
  cases t with
  | nil => exact absurd rfl h
  | cons c rest =>
    rw [lower, lowerFrom]
    split
    · exact List.cons_ne_nil _ _
    · rw [lowerChar]
      split <;> exact List.cons_ne_nil _ _

namespace Name

theorem markWords_ne_nil {t : Text} (h : t ≠ []) (inWord : Bool) : markWords inWord t ≠ [] := by
  unfold markWords
  split
  · split
    · exact List.cons_ne_nil _ _
    · split <;> exact List.cons_ne_nil _ _
  · exact h

theorem markCapitals_ne_nil {t : Text} (h : t ≠ []) : markCapitals t ≠ [] := by
  unfold markCapitals
  split
  · split <;> exact List.cons_ne_nil _ _
  · exact h

theorem snakeCase_ne_nil {name : Text} (h : name ≠ []) : snakeCase name ≠ [] :=
  Text.lower_ne_nil (markCapitals_ne_nil (markWords_ne_nil h false))

theorem identifier_ne_nil {name : Text} (h : name ≠ []) : identifier name ≠ [] := by
  have hshield : ∀ t : Text, t ≠ [] → shieldDigit t ≠ [] := by
    intro t ht
    cases t with
    | nil => exact absurd rfl ht
    | cons c rest =>
      rw [shieldDigit]
      split <;> exact List.cons_ne_nil _ _
  have hmap : (name.map fun c => if isIdentifierChar c then c else '_') ≠ [] := by simpa using h
  rw [identifier, shieldReserved]
  split
  · simp
  · exact hshield _ hmap

theorem isIdentifierChar_of_mem_append {name tail : Text} (htail : tail.all isIdentifierChar)
    {c : Char} (h : c ∈ identifier name ++ tail) : isIdentifierChar c := by
  rcases List.mem_append.mp h with h | h
  · exact isIdentifierChar_of_mem_identifier h
  · exact List.all_eq_true.mp htail c h

theorem not_mem_append {name tail : Text} {c : Char} (hname : ∀ x ∈ name, isIdentifierChar x)
    (hc : ¬ isIdentifierChar c) (htail : c ∉ tail) : c ∉ name ++ tail := by
  intro h
  rcases List.mem_append.mp h with h | h
  · exact hc (hname c h)
  · exact htail h

theorem identifier_eq_nil_iff {name : Text} : identifier name = [] ↔ name = [] := by
  refine ⟨fun h => Classical.byContradiction fun hne => identifier_ne_nil hne h, ?_⟩
  rintro rfl
  rfl

/-- An identifier: ASCII letters, digits and underscores with no digit at the start, and no reserved
word. -/
structure IsIdentifier (t : Text) : Prop where
  ne_nil : t ≠ []
  chars : ∀ c ∈ t, isIdentifierChar c
  start : ∀ c ∈ t.head?, isDigit c = false
  free : t ∉ reservedWords

theorem isIdentifier_iff {t : Text} :
    IsIdentifier t ↔ t ≠ [] ∧ t.all isIdentifierChar ∧ t.head?.all (fun c => !isDigit c) ∧
      t ∉ reservedWords := by
  rw [List.all_eq_true, Option.all_eq_true]
  constructor
  · exact fun h => ⟨h.ne_nil, h.chars, fun c hc => by simp [h.start c hc], h.free⟩
  · exact fun ⟨hne, hchars, hstart, hfree⟩ =>
      ⟨hne, hchars, fun c hc => by simpa using hstart c hc, hfree⟩

instance (t : Text) : Decidable (IsIdentifier t) := decidable_of_iff _ isIdentifier_iff.symm

theorem not_isDigit_of_mem_head?_shieldDigit {t : Text} {c : Char}
    (h : c ∈ (shieldDigit t).head?) : isDigit c = false := by
  cases t with
  | nil => simp [shieldDigit] at h
  | cons first rest =>
    rw [shieldDigit] at h
    split at h
    · obtain rfl : '_' = c := by simpa using h
      rfl
    · obtain rfl : first = c := by simpa using h
      simpa using ‹¬isDigit first = true›

theorem head?_shieldReserved (t : Text) : (shieldReserved t).head? = t.head? := by
  rw [shieldReserved]
  split
  · cases t with
    | nil => exact absurd ‹[] ∈ reservedWords› (by decide)
    | cons c rest => rfl
  · rfl

theorem append_underscore_not_mem_reservedWords :
    ∀ word ∈ reservedWords, word ++ ['_'] ∉ reservedWords := by
  decide

theorem shieldReserved_not_mem_reservedWords (t : Text) : shieldReserved t ∉ reservedWords := by
  rw [shieldReserved]
  split
  · exact append_underscore_not_mem_reservedWords t ‹_›
  · assumption

/-- Every name but the empty one is turned into an identifier. -/
theorem isIdentifier_identifier_iff {name : Text} :
    IsIdentifier (identifier name) ↔ name ≠ [] := by
  constructor
  · exact fun h hnil => h.ne_nil (identifier_eq_nil_iff.mpr hnil)
  · intro h
    refine ⟨identifier_ne_nil h, fun c hc => isIdentifierChar_of_mem_identifier hc, ?_,
      shieldReserved_not_mem_reservedWords _⟩
    intro c hc
    rw [identifier, head?_shieldReserved] at hc
    exact not_isDigit_of_mem_head?_shieldDigit hc

theorem snakeCase_eq_nil_iff {name : Text} : snakeCase name = [] ↔ name = [] := by
  refine ⟨fun h => Classical.byContradiction fun hne => snakeCase_ne_nil hne h, ?_⟩
  rintro rfl
  rfl

theorem isIdentifier_fieldName_iff {label : Text} :
    IsIdentifier (fieldName label) ↔ label ≠ [] := by
  rw [fieldName, isIdentifier_identifier_iff, ne_eq, snakeCase_eq_nil_iff]

theorem IsIdentifier.append {t tail : Text} (h : IsIdentifier t)
    (hchars : tail.all isIdentifierChar) (hfree : ∀ word ∈ reservedWords, ¬ tail <:+ word) :
    IsIdentifier (t ++ tail) := by
  refine ⟨List.append_ne_nil_of_left_ne_nil h.ne_nil tail, fun c hc => ?_, fun c hc => ?_, ?_⟩
  · exact (List.mem_append.mp hc).elim (h.chars c) (List.all_eq_true.mp hchars c)
  · obtain ⟨first, rest, rfl⟩ := List.exists_cons_of_ne_nil h.ne_nil
    exact h.start c hc
  · exact fun hreserved => hfree _ hreserved (List.suffix_append t tail)

end Name

structure ClassOutline.HasIdentifiers (c : ClassOutline) : Prop where
  className : Name.IsIdentifier c.className
  traitName : Name.IsIdentifier c.traitName
  moduleName : Name.IsIdentifier c.moduleName
  traitModuleName : Name.IsIdentifier c.traitModuleName

theorem ClassOutline.hasIdentifiers {c : ClassOutline} (h : c.name ≠ []) : c.HasIdentifiers := by
  have hclass : Name.IsIdentifier c.className := Name.isIdentifier_identifier_iff.mpr h
  have hmodule : Name.IsIdentifier c.moduleName := Name.isIdentifier_fieldName_iff.mpr h
  exact ⟨hclass, hclass.append (by decide) (by decide), hmodule,
    hmodule.append (by decide) (by decide)⟩

end VocabBindings
