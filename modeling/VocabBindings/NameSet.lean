import VocabBindings.Text.Basic

/-!
Sets of names, held in ascending order by code point.
-/

set_option autoImplicit false

namespace VocabBindings

/-- A finite set of names. Two sets with the same members are equal. -/
structure NameSet where
  names : List Text
  ascending : names.Pairwise (· < ·)
  deriving DecidableEq

namespace NameSet

def empty : NameSet := ⟨[], .nil⟩

def place (name : Text) : List Text → List Text
  | [] => [name]
  | n :: rest =>
    if name < n then name :: n :: rest else if name = n then n :: rest else n :: place name rest

theorem mem_place {x name : Text} {names : List Text} :
    x ∈ place name names ↔ x = name ∨ x ∈ names := by
  induction names with
  | nil => simp [place]
  | cons n rest ih =>
    unfold place
    split
    · simp
    · split
      · rename_i h
        subst h
        simp
      · simp only [List.mem_cons, ih]
        exact or_left_comm

theorem pairwise_place {name : Text} {names : List Text} (h : names.Pairwise (· < ·)) :
    (place name names).Pairwise (· < ·) := by
  induction names with
  | nil => simp [place]
  | cons n rest ih =>
    have hn := List.pairwise_cons.mp h
    unfold place
    split
    · rename_i hlt
      refine List.pairwise_cons.mpr ⟨fun x hx => ?_, h⟩
      rcases List.mem_cons.mp hx with rfl | hx
      · exact hlt
      · exact List.lt_trans hlt (hn.1 x hx)
    · split
      · exact h
      · rename_i hnlt hne
        refine List.pairwise_cons.mpr ⟨fun x hx => ?_, ih hn.2⟩
        rcases mem_place.mp hx with rfl | hx
        · rcases List.le_iff_lt_or_eq.mp (List.not_lt.mp hnlt) with hlt | heq
          · exact hlt
          · exact absurd heq.symm hne
        · exact hn.1 x hx

def insert (s : NameSet) (name : Text) : NameSet := ⟨place name s.names, pairwise_place s.ascending⟩

theorem mem_names_insert {s : NameSet} {name x : Text} :
    x ∈ (s.insert name).names ↔ x = name ∨ x ∈ s.names := mem_place

def insertAll (s : NameSet) (names : List Text) : NameSet := names.foldl insert s

theorem mem_names_insertAll {s : NameSet} {names : List Text} {x : Text} :
    x ∈ (s.insertAll names).names ↔ x ∈ names ∨ x ∈ s.names := by
  induction names generalizing s with
  | nil => simp [insertAll]
  | cons n rest ih =>
    show x ∈ ((s.insert n).insertAll rest).names ↔ _
    rw [ih, mem_names_insert, List.mem_cons]
    constructor
    · rintro (h | h | h)
      · exact .inl (.inr h)
      · exact .inl (.inl h)
      · exact .inr h
    · rintro ((h | h) | h)
      · exact .inr (.inl h)
      · exact .inl h
      · exact .inr (.inr h)

def ofList (names : List Text) : NameSet := empty.insertAll names

end NameSet

end VocabBindings
