import VocabBindings.Files.Tree
import VocabBindings.Text.Quoted

/-!
The wording of failed operations on files.
-/

set_option autoImplicit false

namespace VocabBindings.Files

def FileError.paths (e : FileError) : Text :=
  Text.quoted e.path ++
    match e.target with
    | some target => " -> ".toList ++ Text.quoted target
    | none => []

def FileError.message (e : FileError) : Text :=
  if e.fault = .nullCharacter then e.fault.text else e.fault.text ++ ": ".toList ++ e.paths

end VocabBindings.Files
