import VocabBindings.Keyed
import VocabBindings.NameSet

/-!
The names of the value types of properties. A value type is a primitive if it is one of the
built-in ones or has an override; every other type stands for itself and is kept as a suggestion.
-/

set_option autoImplicit false

namespace VocabBindings

/-- A naming: overrides on top of the built-in primitives, and the suggestions met so far. An
override without a target is none. -/
structure TypeNaming where
  overrides : List (Text × Option Text) := []
  suggestions : NameSet := .empty
  deriving DecidableEq

namespace TypeNaming

def builtIn : List (Text × Text) :=
  [("URL", "str"), ("Text", "str"), ("Date", "str"), ("DateTime", "str"), ("Time", "str"),
   ("Number", "float"), ("Integer", "int"), ("Boolean", "bool"), ("True", "bool"),
   ("False", "bool")].map fun p => (p.1.toList, p.2.toList)

def primitive? (m : TypeNaming) (type : Text) : Option Text :=
  match Keyed.get? type builtIn with
  | some target => some target
  | none => (Keyed.get? type m.overrides).join

def target (m : TypeNaming) (type : Text) : Text := (m.primitive? type).getD type

def referenced (m : TypeNaming) (types : List Text) : List Text :=
  types.filter fun type => (m.primitive? type).isNone

def suggest (m : TypeNaming) (types : List Text) : TypeNaming :=
  { m with suggestions := m.suggestions.insertAll (m.referenced types) }

/-- Names one value type: its target, whether it is a primitive, and the naming after. -/
def nameOf (m : TypeNaming) (type : Text) : (Text × Bool) × TypeNaming :=
  ((m.target type, (m.primitive? type).isSome), m.suggest [type])

end TypeNaming

end VocabBindings
