import VocabBindings.Name.Identifier

/-!
What modules are printed from: attributes with the names of their value types, outlines of classes
with their parents and lineages, and the result of a resolution.
-/

set_option autoImplicit false

namespace VocabBindings

structure Attribute where
  name : Text
  description : Text
  types : List Text := []
  reference : Text := []
  deriving DecidableEq

namespace Attribute

def fieldName (p : Attribute) : Text := Name.fieldName p.name

def typeNames (p : Attribute) : List Text := (p.types.map Name.className).eraseDups

def hint (p : Attribute) : Text :=
  match p.typeNames with
  | [] => "Any".toList
  | [type] => "Optional[".toList ++ type ++ "]".toList
  | types => "Optional[Union[".toList ++ Text.joined ", ".toList types ++ "]]".toList

end Attribute

/-- A class with everything its modules are printed from. Properties are keyed by their labels; the
parents are the direct ones, and the traits are the class itself and its ancestors. -/
structure ClassOutline where
  name : Text
  description : Text := []
  parents : List Text := []
  properties : List (Text × Attribute) := []
  traits : List Text := []
  deriving DecidableEq

namespace ClassOutline

def className (c : ClassOutline) : Text := Name.className c.name

def traitName (c : ClassOutline) : Text := c.className ++ "Trait".toList

def moduleName (c : ClassOutline) : Text := Name.moduleName c.name

def traitModuleName (c : ClassOutline) : Text := c.moduleName ++ "_trait".toList

end ClassOutline

/-- The result of a resolution: the classes that are required, the names that were requested, and
the types that could be requested too. -/
structure Resolution where
  classes : List ClassOutline
  requested : List Text
  suggestions : List Text
  deriving DecidableEq

namespace Resolution

def class? (r : Resolution) (name : Text) : Option ClassOutline :=
  r.classes.reverse.find? (·.name = name)

def remainingSuggestions (r : Resolution) : List Text :=
  r.suggestions.filter fun s => s ∉ r.requested

end Resolution

end VocabBindings
