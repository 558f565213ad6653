import VocabBindings.Vocabulary.Index

/-!
The ancestry of classes. Both walks are depth first, visit a class before its parents and the first
parent first, and skip names that are empty or were visited. The walk for the required classes stops
at a name that the index does not hold; that name has been visited then. The walk for a
lineage goes on.
-/

set_option autoImplicit false

namespace VocabBindings

/-- A class that is not in the index, and the class whose parent it was to be. -/
structure MissingSchema where
  identifier : Text
  requestedBy : Option Text
  deriving DecidableEq

namespace Index

def unvisited (index : Index) (visited : List Text) : Nat :=
  index.entries.countP fun e => e.id ∉ visited

theorem countP_unvisited_le (entries : List Entry) (visited more : List Text) :
    (entries.countP fun e => e.id ∉ visited ++ more) ≤
      entries.countP fun e => e.id ∉ visited := by
  apply List.countP_mono_left
  intro e _ h
  simp only [List.mem_append, not_or, decide_eq_true_eq] at h ⊢
  exact h.1

theorem unvisited_le (index : Index) (visited more : List Text) :
    index.unvisited (visited ++ more) ≤ index.unvisited visited :=
  countP_unvisited_le index.entries visited more

theorem unvisited_lt {index : Index} {visited : List Text} {name : Text} {e : Entry}
    (he : index.get? name = some e) (h : name ∉ visited) :
    index.unvisited (visited ++ [name]) < index.unvisited visited := by
  obtain ⟨hm, rfl⟩ := get?_mem he
  obtain ⟨before, after, hsplit⟩ := List.append_of_mem hm
  have hb := countP_unvisited_le before visited [e.id]
  have ha := countP_unvisited_le after visited [e.id]
  unfold unvisited
  rw [hsplit, List.countP_append, List.countP_append, List.countP_cons_of_neg (by simp),
    List.countP_cons_of_pos (by simpa using h)]
  omega

/-- Visits the names on a stack, each with the class that it is a parent of, and their ancestors.
The answer is the list of visited names in order, and the missing class at which the walk
stopped. -/
def visit (index : Index) (visited : List Text) :
    List (Text × Option Text) → List Text × Option MissingSchema
  | [] => (visited, none)
  | (name, requestedBy) :: stack =>
    if name = [] ∨ name ∈ visited then index.visit visited stack
    else
      match _h : index.get? name with
      | none => (visited ++ [name], some ⟨name, requestedBy⟩)
      | some e => index.visit (visited ++ [name]) (e.parents.map (·, some name) ++ stack)
termination_by stack => (index.unvisited visited, stack.length)
decreasing_by
  · exact Prod.Lex.right _ (by simp)
  · rename_i hv
    exact Prod.Lex.left _ _ (unvisited_lt _h (fun hm => hv (.inr hm)))

/-- Adds the names on a stack and their ancestors to a lineage. A name that the index does not hold
has no ancestors. -/
def extendLineage (index : Index) (found : List Text) : List Text → List Text
  | [] => found
  | name :: stack =>
    if name = [] ∨ name ∈ found then index.extendLineage found stack
    else
      match _h : index.get? name with
      | none => index.extendLineage (found ++ [name]) stack
      | some e => index.extendLineage (found ++ [name]) (e.parents ++ stack)
termination_by stack => (index.unvisited found, stack.length)
decreasing_by
  · exact Prod.Lex.right _ (by simp)
  · rcases Nat.lt_or_eq_of_le (unvisited_le index found [name]) with hlt | heq
    · exact Prod.Lex.left _ _ hlt
    · rw [heq]
      exact Prod.Lex.right _ (by simp)
  · rename_i hv
    exact Prod.Lex.left _ _ (unvisited_lt _h (fun hm => hv (.inr hm)))

def lineage (index : Index) (name : Text) : List Text := index.extendLineage [] [name]

end Index

end VocabBindings
