import VocabBindings.Module.Templates
import VocabBindings.Proofs.Name.Identifier
import VocabBindings.Proofs.Text.Pieces

/-!
Annotated assignments. The line of a property in a trait assigns to a field that is annotated with
the names of its value types. The line is such an assignment exactly if neither the property nor any
of its types is without a name.
-/

set_option autoImplicit false

namespace VocabBindings

open Name (IsIdentifier isIdentifierChar)

namespace Attribute

theorem isIdentifier_fieldName_iff {p : Attribute} : IsIdentifier p.fieldName ↔ p.name ≠ [] :=
  Name.isIdentifier_fieldName_iff

theorem mem_typeNames {p : Attribute} {t : Text} :
    t ∈ p.typeNames ↔ ∃ type ∈ p.types, Name.className type = t := by
  rw [typeNames, List.mem_eraseDups, List.mem_map]

theorem nil_mem_typeNames_iff {p : Attribute} : [] ∈ p.typeNames ↔ [] ∈ p.types := by
  simp [mem_typeNames, Name.className, Name.identifier_eq_nil_iff]

theorem isIdentifier_of_mem_typeNames {p : Attribute} {t : Text} (h : t ∈ p.typeNames)
    (ht : t ≠ []) : IsIdentifier t := by
  obtain ⟨type, -, rfl⟩ := mem_typeNames.mp h
  exact Name.isIdentifier_identifier_iff.mpr fun hnil => ht (Name.identifier_eq_nil_iff.mpr hnil)

theorem forall_isIdentifier_typeNames_iff {p : Attribute} :
    (∀ t ∈ p.typeNames, IsIdentifier t) ↔ [] ∉ p.types := by
  rw [← nil_mem_typeNames_iff]
  constructor
  · exact fun h hnil => (h _ hnil).ne_nil rfl
  · exact fun h t ht => isIdentifier_of_mem_typeNames ht fun hnil => h (hnil ▸ ht)

end Attribute

namespace Module

def application (t : Text) (arguments : List Text) : Text :=
  t ++ '[' :: Text.joined ", ".toList arguments ++ "]".toList

/-- The annotations that are written in traits: identifiers, and identifiers with annotations as
arguments. -/
inductive IsTypeHint : Text → Prop
  | name {t : Text} (h : IsIdentifier t) : IsTypeHint t
  | applied {t : Text} {arguments : List Text} (h : IsIdentifier t) (hne : arguments ≠ [])
      (harguments : ∀ a ∈ arguments, IsTypeHint a) : IsTypeHint (application t arguments)

def assignment (field hint : Text) : Text :=
  field ++ ": ".toList ++ hint ++ " = None".toList

def IsAnnotatedAssignment (line : Text) : Prop :=
  ∃ field hint, IsIdentifier field ∧ IsTypeHint hint ∧ line = assignment field hint

def fieldLine (p : Attribute) : Text := assignment p.fieldName p.hint

theorem propertyPieces_eq (p : Attribute) :
    propertyPieces p =
      [.code ("\n    ".toList ++ fieldLine p ++ "\n    ".toList), .docstring (propertyBody p),
        .code "\n".toList] := by
  simp [propertyPieces, fieldLine, assignment]

def StartsName (t : Text) : Prop := ∃ c ∈ t.head?, isIdentifierChar c

theorem StartsName.append {t : Text} (h : StartsName t) (u : Text) : StartsName (t ++ u) := by
  obtain ⟨c, hc, hname⟩ := h
  exact ⟨c, by simp [Option.mem_def.mp hc], hname⟩

theorem not_startsName_cons {c : Char} (h : ¬ isIdentifierChar c) (rest : Text) :
    ¬ StartsName (c :: rest) := by
  rintro ⟨d, hd, hname⟩
  obtain rfl : c = d := by simpa using hd
  exact h hname

theorem startsName_of_isIdentifier {t : Text} (h : IsIdentifier t) : StartsName t := by
  obtain ⟨c, rest, rfl⟩ := List.exists_cons_of_ne_nil h.ne_nil
  exact ⟨c, rfl, h.chars c List.mem_cons_self⟩

theorem startsName_of_isTypeHint {t : Text} (h : IsTypeHint t) : StartsName t := by
  cases h with
  | name ht => exact startsName_of_isIdentifier ht
  | applied ht _ _ => exact ((startsName_of_isIdentifier ht).append _).append _

/-- A text in which an opening bracket and a blank always have a name right behind them. -/
def NamesFollow : Text → Prop
  | [] => True
  | c :: rest => (c = '[' ∨ c = ' ' → StartsName rest) ∧ NamesFollow rest

theorem NamesFollow.append {t u : Text} (ht : NamesFollow t) (hu : NamesFollow u) :
    NamesFollow (t ++ u) := by
  induction t with
  | nil => exact hu
  | cons c rest ih => exact ⟨fun hc => (ht.1 hc).append u, ih ht.2⟩

theorem NamesFollow.of_append {t u : Text} (h : NamesFollow (t ++ u)) : NamesFollow u := by
  induction t with
  | nil => exact h
  | cons c rest ih => exact ih h.2

theorem namesFollow_of_forall_ne {t : Text} (h : ∀ c ∈ t, c ≠ '[' ∧ c ≠ ' ') : NamesFollow t := by
  induction t with
  | nil => trivial
  | cons c rest ih =>
    obtain ⟨hc, hrest⟩ := List.forall_mem_cons.mp h
    exact ⟨fun hopen => (hopen.elim hc.1 hc.2).elim, ih hrest⟩

theorem namesFollow_of_isIdentifier {t : Text} (h : IsIdentifier t) : NamesFollow t := by
  refine namesFollow_of_forall_ne fun c hc => ⟨?_, ?_⟩ <;>
  · rintro rfl
    exact absurd (h.chars _ hc) (by decide)

theorem joined_cons_cons (a b : Text) (more : List Text) :
    Text.joined ", ".toList (a :: b :: more) =
      a ++ ',' :: ' ' :: Text.joined ", ".toList (b :: more) := by
  simp [Text.joined, List.intercalate_cons_cons]

theorem namesFollow_joined {c : Char} {arguments : List Text} (hne : arguments ≠ [])
    (h : ∀ a ∈ arguments, StartsName a ∧ NamesFollow a) :
    NamesFollow (c :: Text.joined ", ".toList arguments) := by
  induction arguments generalizing c with
  | nil => exact absurd rfl hne
  | cons a rest ih =>
    obtain ⟨⟨hstart, ha⟩, hrest⟩ := List.forall_mem_cons.mp h
    cases rest with
    | nil => exact ⟨fun _ => by simpa [Text.joined] using hstart, by simpa [Text.joined] using ha⟩
    | cons b more =>
      have hmore := ih (c := ' ') (List.cons_ne_nil b more) hrest
      have hcomma : NamesFollow (',' :: ' ' :: Text.joined ", ".toList (b :: more)) :=
        ⟨by simp, hmore⟩
      rw [joined_cons_cons]
      exact ⟨fun _ => hstart.append _, ha.append hcomma⟩

theorem namesFollow_of_isTypeHint {t : Text} (h : IsTypeHint t) : NamesFollow t := by
  induction h with
  | name ht => exact namesFollow_of_isIdentifier ht
  | applied ht hne harguments ih =>
    have hopened := namesFollow_joined (c := '[') hne fun a ha =>
      ⟨startsName_of_isTypeHint (harguments a ha), ih a ha⟩
    exact ((namesFollow_of_isIdentifier ht).append hopened).append
      (namesFollow_of_forall_ne (by simp))

theorem nil_not_mem_of_namesFollow {c : Char} {arguments : List Text} (rest : Text)
    (hc : c = '[' ∨ c = ' ')
    (h : NamesFollow (c :: Text.joined ", ".toList arguments ++ ']' :: rest)) :
    [] ∉ arguments := by
  induction arguments generalizing c with
  | nil => exact List.not_mem_nil
  | cons a more ih =>
    cases more with
    | nil =>
      intro hnil
      obtain rfl := List.mem_singleton.mp hnil
      exact not_startsName_cons (by decide) rest (h.1 hc)
    | cons b more =>
      rw [joined_cons_cons] at h
      have hmore : NamesFollow (' ' :: Text.joined ", ".toList (b :: more) ++ ']' :: rest) := by
        have hsuffix : NamesFollow ((c :: a ++ [',']) ++
            (' ' :: Text.joined ", ".toList (b :: more) ++ ']' :: rest)) := by
          simpa using h
        exact hsuffix.of_append
      rw [List.mem_cons, not_or]
      refine ⟨?_, ih (.inr rfl) hmore⟩
      rintro rfl
      exact not_startsName_cons (by decide) _ (h.1 hc)

theorem hint_cases (p : Attribute) :
    p.typeNames = [] ∧ p.hint = "Any".toList ∨
    p.typeNames ≠ [] ∧ p.hint = application "Optional".toList p.typeNames ∨
    p.typeNames ≠ [] ∧
      p.hint = application "Optional".toList [application "Union".toList p.typeNames] := by
  unfold Attribute.hint
  split
  · exact .inl ⟨‹_›, rfl⟩
  · rename_i type heq
    exact .inr (.inl ⟨by simp [heq], by simp [application, heq, Text.joined]⟩)
  · rename_i hnil _
    exact .inr (.inr ⟨fun heq => hnil heq, by simp [application, Text.joined]⟩)

theorem isTypeHint_hint_iff {p : Attribute} : IsTypeHint p.hint ↔ [] ∉ p.typeNames := by
  have hname : [] ∉ p.typeNames → ∀ t ∈ p.typeNames, IsTypeHint t := fun h t ht =>
    .name (Attribute.isIdentifier_of_mem_typeNames ht fun hnil => h (hnil ▸ ht))
  rcases hint_cases p with ⟨hnil, heq⟩ | ⟨hne, heq⟩ | ⟨hne, heq⟩ <;> rw [heq]
  · rw [hnil]
    exact iff_of_true (.name (by decide)) List.not_mem_nil
  · constructor
    · intro h
      have hfollow := namesFollow_of_isTypeHint h
      simp only [application, List.append_assoc] at hfollow
      exact nil_not_mem_of_namesFollow [] (.inl rfl) hfollow.of_append
    · exact fun h => .applied (by decide) hne (hname h)
  · constructor
    · intro h
      have hfollow := namesFollow_of_isTypeHint h
      have hopened : NamesFollow ("Optional[Union".toList ++
          ('[' :: Text.joined ", ".toList p.typeNames ++ "]]".toList)) := by
        simpa [application, Text.joined] using hfollow
      exact nil_not_mem_of_namesFollow [']'] (.inl rfl) hopened.of_append
    · intro h
      have hunion : IsTypeHint (application "Union".toList p.typeNames) :=
        .applied (by decide) hne (hname h)
      exact .applied (by decide) (List.cons_ne_nil _ _) (List.forall_mem_singleton.mpr hunion)

/-- The line of a property is an annotated assignment exactly if the property and all its types have
names. -/
theorem isAnnotatedAssignment_fieldLine_iff {p : Attribute} :
    IsAnnotatedAssignment (fieldLine p) ↔
      IsIdentifier p.fieldName ∧ ∀ t ∈ p.typeNames, IsIdentifier t := by
  rw [Attribute.forall_isIdentifier_typeNames_iff, ← Attribute.nil_mem_typeNames_iff,
    ← isTypeHint_hint_iff]
  constructor
  · rintro ⟨field, hint, hfield, hhint, heq⟩
    have hsplit : p.fieldName ++ ':' :: (' ' :: p.hint ++ " = None".toList) =
        field ++ ':' :: (' ' :: hint ++ " = None".toList) := by
      simpa [fieldLine, assignment] using heq
    have hcolon : ':' ∉ p.fieldName := fun hc =>
      absurd (Name.isIdentifierChar_of_mem_identifier hc) (by decide)
    have hcolon' : ':' ∉ field := fun hc => absurd (hfield.chars _ hc) (by decide)
    obtain ⟨rfl, hrest⟩ := Text.eq_of_append_cons hcolon hcolon' hsplit
    obtain rfl := (List.cons.inj (List.append_cancel_right hrest)).2
    exact ⟨hfield, hhint⟩
  · rintro ⟨hfield, hhint⟩
    exact ⟨_, _, hfield, hhint, rfl⟩

end Module

end VocabBindings
