import VocabBindings.Text.Quoted
import VocabBindings.Resolve.Context

/-!
A whole resolution: index, ancestry, attributes, outlines. The notes of a resolution say what
happened on the way, also when it failed.
-/

set_option autoImplicit false

namespace VocabBindings

/-- Why a resolution failed. The last case is a required class that the index does not hold. -/
inductive ResolutionError where
  | duplicate (d : KindConflict)
  | missing (m : MissingSchema)
  | notIndexed (name : Text)
  deriving DecidableEq

/-- Resolves the requested classes of a vocabulary. The naming of value types comes back with its
suggestions. -/
def resolveClasses (entries : List Entry) (schemas : List Text) (naming : TypeNaming) :
    Except ResolutionError (Resolution × TypeNaming) :=
  match Index.ofEntries entries with
  | .error d => .error (.duplicate d)
  | .ok index =>
    match ({ index : Context }).requireAll schemas with
    | (_, some missing) => .error (.missing missing)
    | (c, none) =>
      let (gathered, naming) := c.gatherWith naming
      match gathered.result with
      | .error name => .error (.notIndexed name)
      | .ok result => .ok (result, naming)

namespace Note

def redeclared (id : Text) : Text :=
  "[graph_index]: '".toList ++ id ++
    "' is declared more than once, the last declaration is indexed.".toList

def required (c : Context) : Text :=
  "[closure]: ".toList ++ Text.ofNat c.required.length ++ " classes required for ".toList ++
    Text.quotedList c.requested ++ ".".toList

def registeredTwice (r : Registration) : Text :=
  "[property_collector]: '".toList ++ r.label ++ "' is registered twice on '".toList ++ r.owner ++
    "', keeping the last one.".toList

/-- The registrations of a list that come after one with the same class and label. -/
def repeatedRegistrations : List (Text × Text) → List Registration → List Registration
  | _, [] => []
  | seen, r :: rest =>
    if (r.owner, r.label) ∈ seen then r :: repeatedRegistrations seen rest
    else repeatedRegistrations ((r.owner, r.label) :: seen) rest

end Note

/-- The notes of a resolution, in order, up to its failure. -/
def resolutionNotes (entries : List Entry) (schemas : List Text) (naming : TypeNaming) :
    List Text :=
  let (index, refusal) := Index.empty.addAll entries
  index.redeclared.map Note.redeclared ++
    if refusal.isSome then []
    else
      match ({ index : Context }).requireAll schemas with
      | (_, some _) => []
      | (c, none) =>
        Note.required c ::
          (Note.repeatedRegistrations [] (c.registrations naming)).map Note.registeredTwice

end VocabBindings
