import VocabBindings.Text.Basic

/-!
Snapshots that could not be had.
-/

set_option autoImplicit false

namespace VocabBindings

namespace Message

def unavailable (source reason : Text) : Text :=
  "Ontology snapshot '".toList ++ source ++ "' is unavailable: ".toList ++ reason

end Message

namespace Snapshot

/-- Why a snapshot could not be had: in settled words, in words that are only there to be read, or
for a reason without words. -/
inductive Reason where
  | settled (words : Text)
  | incidental (words : Text)
  | silent
  deriving DecidableEq

def Reason.words : Reason → Text
  | settled words => words
  | incidental words => words
  | silent => []

def Reason.isSettled : Reason → Bool
  | settled _ => true
  | _ => false

structure Unavailable where
  source : Text
  reason : Reason
  deriving DecidableEq

def Unavailable.message (u : Unavailable) : Text := Message.unavailable u.source u.reason.words

end Snapshot

end VocabBindings
