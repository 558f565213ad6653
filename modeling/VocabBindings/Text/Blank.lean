import VocabBindings.Text.Basic

/-!
Blank characters and trimming. Trimming removes the blank characters of both ends and no others: it
takes a part of a text that has no blank character at either end, and leaves such a text as it is.
-/

set_option autoImplicit false

namespace VocabBindings.Text

/-- The code points of blank characters: the Unicode white space and the four separators
U+001C to U+001F. U+200B and U+FEFF are not among them. -/
def blankRanges : List (Nat × Nat) :=
  [(0x9, 0xD), (0x1C, 0x20), (0x85, 0x85), (0xA0, 0xA0), (0x1680, 0x1680), (0x2000, 0x200A),
   (0x2028, 0x2029), (0x202F, 0x202F), (0x205F, 0x205F), (0x3000, 0x3000)]

def isBlank (c : Char) : Bool := inRanges blankRanges c.toNat

def isAllBlank (t : Text) : Bool := t.all isBlank

def trimEnd (t : Text) : Text := (t.reverse.dropWhile isBlank).reverse

def trim (t : Text) : Text := trimEnd (t.dropWhile isBlank)

structure IsTrimmed (t : Text) : Prop where
  start : ∀ c ∈ t.head?, isBlank c = false
  finish : ∀ c ∈ t.getLast?, isBlank c = false

theorem trimEnd_isPrefix (t : Text) : trimEnd t <+: t := by
  rw [trimEnd, ← List.reverse_suffix, List.reverse_reverse]
  exact List.dropWhile_suffix isBlank

theorem trim_isInfix (t : Text) : trim t <:+: t :=
  (trimEnd_isPrefix _).isInfix.trans (List.dropWhile_suffix isBlank).isInfix

theorem not_isBlank_of_mem_head?_dropWhile {t : Text} {c : Char}
    (h : c ∈ (t.dropWhile isBlank).head?) : isBlank c = false := by
  have hhead := List.head?_dropWhile_not isBlank t
  rw [h] at hhead
  exact hhead

theorem dropWhile_of_head? {t : Text} (h : ∀ c ∈ t.head?, isBlank c = false) :
    t.dropWhile isBlank = t := by
  cases t with
  | nil => rfl
  | cons c rest => simp [h c rfl]

theorem trim_of_isTrimmed {t : Text} (h : IsTrimmed t) : trim t = t := by
  have hreverse : ∀ c ∈ t.reverse.head?, isBlank c = false := by
    rw [List.head?_reverse]
    exact h.finish
  rw [trim, dropWhile_of_head? h.start, trimEnd, dropWhile_of_head? hreverse, List.reverse_reverse]

theorem isTrimmed_trim (t : Text) : IsTrimmed (trim t) := by
  refine ⟨fun c hc => ?_, fun c hc => ?_⟩
  · obtain ⟨rest, hrest⟩ := trimEnd_isPrefix (t.dropWhile isBlank)
    apply not_isBlank_of_mem_head?_dropWhile (t := t)
    have hhead : (trimEnd (t.dropWhile isBlank)).head? = some c := hc
    rw [← hrest, List.head?_append, hhead]
    rfl
  · rw [trim, trimEnd, List.getLast?_reverse] at hc
    exact not_isBlank_of_mem_head?_dropWhile hc

end VocabBindings.Text
