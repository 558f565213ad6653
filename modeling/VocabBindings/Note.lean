import VocabBindings.Text.Basic

/-!
Notes on what a run does, for a log.
-/

set_option autoImplicit false

namespace VocabBindings

inductive NoteLevel where
  | debug
  | info
  deriving DecidableEq

structure Note where
  level : NoteLevel
  text : Text
  deriving DecidableEq

namespace Note

def debug (text : Text) : Note := ⟨.debug, text⟩

def info (text : Text) : Note := ⟨.info, text⟩

end Note

end VocabBindings
