import VocabBindings.Resolve.Run

/-!
The wording of failed resolutions.
-/

set_option autoImplicit false

namespace VocabBindings

namespace Message

/-- A class is not in the vocabulary. Without a class, or with an empty one, the user asked for
it. -/
def missingSchema (identifier : Text) (requestedBy : Option Text) : Text :=
  let requester :=
    match requestedBy with
    | some (c :: rest) => "class '".toList ++ c :: rest ++ "'".toList
    | _ => "the user request".toList
  "Schema '".toList ++ identifier ++ "' (required by ".toList ++ requester ++
    ") does not exist in the ontology.".toList

def kindConflict (identifier existing declared : Text) : Text :=
  "Identifier '".toList ++ identifier ++ "' is declared both as ".toList ++ existing ++
    " and as ".toList ++ declared ++ ".".toList

end Message

def MissingSchema.message (m : MissingSchema) : Text :=
  Message.missingSchema m.identifier m.requestedBy

def KindConflict.message (d : KindConflict) : Text :=
  Message.kindConflict d.identifier d.existing.word d.declared.word

end VocabBindings
