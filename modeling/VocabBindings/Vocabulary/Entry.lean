import VocabBindings.Text.Basic

/-!
Vocabulary entries: what a snapshot says about one class, property or other node.
-/

set_option autoImplicit false

namespace VocabBindings

/-- What a node of the vocabulary describes. Schemas are the classes. -/
inductive Entry.Kind where
  | schema
  | property
  | other
  deriving DecidableEq

def Entry.Kind.word : Entry.Kind → Text
  | schema => "class".toList
  | property => "property".toList
  | other => "other".toList

/-- One node of the vocabulary. References are local names; absent lists and texts are empty. The
comment may hold markup. -/
structure Entry where
  id : Text
  kind : Entry.Kind
  comment : Text := []
  parents : List Text := []
  domains : List Text := []
  ranges : List Text := []
  label : Text := []
  uri : Text := []
  deriving DecidableEq

end VocabBindings
