import VocabBindings.Vocabulary.Entry

/-!
The index of a vocabulary: the entries in order, looked up by identifier. A later entry replaces an
earlier one with the same identifier, and an entry of another kind is refused.
-/

set_option autoImplicit false

namespace VocabBindings

structure Index where
  entries : List Entry
  deriving DecidableEq

structure KindConflict where
  identifier : Text
  existing : Entry.Kind
  declared : Entry.Kind
  deriving DecidableEq

namespace Index

def empty : Index := ⟨[]⟩

def get? (index : Index) (id : Text) : Option Entry := index.entries.reverse.find? (·.id = id)

def contains (index : Index) (id : Text) : Bool := (index.get? id).isSome

def add (index : Index) (e : Entry) : Except KindConflict Index :=
  match index.get? e.id with
  | some existing =>
    if existing.kind = e.kind then .ok ⟨index.entries ++ [e]⟩
    else .error ⟨e.id, existing.kind, e.kind⟩
  | none => .ok ⟨index.entries ++ [e]⟩

/-- The index with entries added up to the first that is refused, and that refusal. -/
def addAll (index : Index) : List Entry → Index × Option KindConflict
  | [] => (index, none)
  | e :: rest =>
    match index.add e with
    | .ok next => next.addAll rest
    | .error refusal => (index, some refusal)

def ofEntries (entries : List Entry) : Except KindConflict Index :=
  match empty.addAll entries with
  | (index, none) => .ok index
  | (_, some refusal) => .error refusal

def size (index : Index) : Nat := (index.entries.map Entry.id).eraseDups.length

def properties (index : Index) : List Entry := index.entries.filter (·.kind = .property)

def schemas (index : Index) : List Entry := index.entries.filter (·.kind = .schema)

def repeated : List Text → List Text → List Text
  | _, [] => []
  | seen, id :: rest => if id ∈ seen then id :: repeated seen rest else repeated (id :: seen) rest

def redeclared (index : Index) : List Text := repeated [] (index.entries.map Entry.id)

theorem get?_mem {index : Index} {id : Text} {e : Entry} (h : index.get? id = some e) :
    e ∈ index.entries ∧ e.id = id := by
  have hm := List.mem_of_find?_eq_some h
  have hp := List.find?_some h
  exact ⟨List.mem_reverse.mp hm, by simpa using hp⟩

end Index

end VocabBindings
