import VocabBindings.Text.Basic

/-!
Line boundaries. A line ends at any of the boundary characters or at the pair of carriage return
and line feed. A boundary at the very end starts no further line.
-/

set_option autoImplicit false

namespace VocabBindings.Text

def isLineBoundary (c : Char) : Bool :=
  inRanges [(0xA, 0xD), (0x1C, 0x1E), (0x85, 0x85), (0x2028, 0x2029)] c.toNat

def lines : Text → List Text
  | [] => []
  | '\r' :: '\n' :: rest => [] :: lines rest
  | c :: rest =>
    if isLineBoundary c then [] :: lines rest
    else
      match lines rest with
      | [] => [[c]]
      | l :: ls => (c :: l) :: ls

/-- The text with every carriage return, alone or before a line feed, replaced by a line feed. -/
def withLineFeeds : Text → Text
  | [] => []
  | '\r' :: '\n' :: rest => '\n' :: withLineFeeds rest
  | c :: rest => (if c = '\r' then '\n' else c) :: withLineFeeds rest

def indentRest (width : Nat) (t : Text) : Text :=
  match lines (t ++ ['\n']) with
  | [] => []
  | first :: rest =>
    joined ['\n'] (first :: rest.map fun l => if l = [] then [] else List.replicate width ' ' ++ l)

end VocabBindings.Text
