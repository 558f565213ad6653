import VocabBindings.Proofs.Name.FieldName
import VocabBindings.Proofs.Text.Lowercase

/-!
Names that are made twice. An identifier is its own identifier. A field name has no capital letter,
so no word is marked in it and nothing is lowered, and it is its own field name.
-/

set_option autoImplicit false

namespace VocabBindings.Name

theorem identifier_identifier (name : Text) : identifier (identifier name) = identifier name := by
  have hchars : ∀ c ∈ identifier name, isIdentifierChar c := fun c hc =>
    isIdentifierChar_of_mem_identifier hc
  rw [identifier_eq (identifier name), map_replaced hchars, identifier_eq, shielded_shielded]

theorem identifier_eq_self_iff {t : Text} : identifier t = t ↔ t = [] ∨ IsIdentifier t := by
  constructor
  · intro h
    by_cases hnil : t = []
    · exact .inl hnil
    · exact .inr (h ▸ isIdentifier_identifier_iff.mpr hnil)
  · intro h
    cases h with
    | inl hnil => rw [hnil, identifier_eq_nil_iff]
    | inr h =>
      rw [identifier_eq, map_replaced h.chars, shielded, shieldDigit_of_not_isDigit h.start,
        shieldReserved, if_neg h.free]

theorem marked_of_isCapital_eq_false {t : Text} (h : ∀ c ∈ t, isCapital c = false) :
    marked t = t := by
  induction t with
  | nil => rfl
  | cons c rest ih =>
    rw [List.forall_mem_cons] at h
    have hfollows : wordFollows c rest = false := by
      cases rest with
      | nil => rfl
      | cons u rest => simp [wordFollows, h.2 u List.mem_cons_self]
    simp [marked, hfollows, ih h.2]

theorem toNat_lt_of_isIdentifierChar {c : Char} (h : isIdentifierChar c) : c.toNat < 0xC0 := by
  simp only [isIdentifierChar, isCapital, isSmall, isDigit, Char.le_def, UInt32.le_iff_toNat_le,
    Bool.or_eq_true, Bool.and_eq_true, decide_eq_true_eq] at h
  rcases h with ((h | h) | h) | rfl
  · exact Nat.lt_of_le_of_lt h.2 (by decide)
  · exact Nat.lt_of_le_of_lt h.2 (by decide)
  · exact Nat.lt_of_le_of_lt h.2 (by decide)
  · decide

theorem spelledChar_of_isCapital_eq_false {c : Char} (h : isIdentifierChar c)
    (hcapital : isCapital c = false) : spelledChar c = [c] := by
  rw [spelledChar, Text.lowerChar_of_lt (toNat_lt_of_isIdentifierChar h),
    toLower_of_isCapital_eq_false hcapital, List.map_singleton, replaced, if_pos h]

theorem spelled_of_isCapital_eq_false {t : Text} (h : ∀ c ∈ t, isIdentifierChar c)
    (hcapital : ∀ c ∈ t, isCapital c = false) : spelled t = t := by
  rw [spelled, marked_of_isCapital_eq_false hcapital]
  induction t with
  | nil => rfl
  | cons c rest ih =>
    rw [List.forall_mem_cons] at h hcapital
    rw [List.flatMap_cons, spelledChar_of_isCapital_eq_false h.1 hcapital.1, ih h.2 hcapital.2]
    rfl

theorem not_isCapital_of_mem_spelled {name : Text} {c : Char} (h : c ∈ spelled name) :
    isCapital c = false := by
  obtain ⟨d, -, hc⟩ := List.mem_flatMap.mp h
  obtain ⟨e, he, rfl⟩ := List.mem_map.mp hc
  rw [replaced]
  split
  · exact Text.not_isCapital_of_mem_lowerChar he
  · decide

theorem not_isCapital_of_mem_fieldName {label : Text} {c : Char} (h : c ∈ fieldName label) :
    isCapital c = false := by
  have hunderscore : isCapital '_' = false := by decide
  rw [fieldName_eq] at h
  rcases mem_of_mem_shieldReserved h with rfl | h
  · exact hunderscore
  · rcases mem_of_mem_shieldDigit h with rfl | h
    · exact hunderscore
    · exact not_isCapital_of_mem_spelled h

theorem fieldName_fieldName (label : Text) : fieldName (fieldName label) = fieldName label := by
  have hspelled : spelled (fieldName label) = fieldName label :=
    spelled_of_isCapital_eq_false (fun _ hc => isIdentifierChar_of_mem_identifier hc)
      fun _ hc => not_isCapital_of_mem_fieldName hc
  rw [fieldName_eq (fieldName label), hspelled, fieldName_eq, shielded_shielded]

/-- Every name but the empty one becomes an identifier, as it is and in snake case. In snake case it
has no capital letter. What has been made is not changed when it is made again. -/
theorem identifiers_stay (name : Text) :
    (IsIdentifier (identifier name) ↔ name ≠ []) ∧
      identifier (identifier name) = identifier name ∧
      ∀ make ∈ [fieldName, moduleName],
        (IsIdentifier (make name) ↔ name ≠ []) ∧ (∀ c ∈ make name, isCapital c = false) ∧
          make (make name) = make name := by
  refine ⟨isIdentifier_identifier_iff, identifier_identifier name, fun make hmake => ?_⟩
  have hsame : moduleName = fieldName := rfl
  obtain rfl : make = fieldName := by simpa [hsame] using hmake
  exact ⟨isIdentifier_fieldName_iff, fun c hc => not_isCapital_of_mem_fieldName hc,
    fieldName_fieldName name⟩

end VocabBindings.Name
