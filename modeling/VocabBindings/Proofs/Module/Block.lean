import VocabBindings.Module.Templates
import VocabBindings.Proofs.Module.Description
import VocabBindings.Proofs.Text.Filling
import VocabBindings.Proofs.Text.Pieces

/-!
The block that a trait prints for a description. It shows what the escaped description shows, and
none of its lines is longer than the indentation and the width.
-/

set_option autoImplicit false

namespace VocabBindings.Module

open Text

/-! The lines of a description. -/

theorem flatMap_visible_descriptionLines (t : Text) :
    (descriptionLines t).flatMap visible = visible (escaped t) := by
  have hbreak : isAllBlank ['\n'] = true := by decide
  rw [descriptionLines, flatMap_visible_lines, visible_append, visible_eq_nil_iff.mpr hbreak,
    List.append_nil, wrapped_eq_joined_rows, visible_joined hbreak, flatMap_visible_rows]

theorem length_of_mem_descriptionLines {t line : Text} (h : line ∈ descriptionLines t) :
    line.length ≤ lineWidth := by
  by_cases hnil : escaped t = []
  · have hempty : descriptionLines t = [[]] := by rw [descriptionLines, hnil]; rfl
    rw [hempty] at h
    rw [List.mem_singleton.mp h]
    exact Nat.zero_le _
  · rw [descriptionLines, lines_wrapped hnil] at h
    exact length_of_mem_rows h

theorem visible_indentedLine (line : Text) : visible (indentedLine line) = visible line := by
  rw [indentedLine]
  split
  · rename_i hnil
    rw [hnil]
  · have hspaces : isAllBlank (List.replicate indentation ' ') = true := by decide
    rw [visible_append, visible_eq_nil_iff.mpr hspaces, List.nil_append]

/-! The printed block. -/

/-- The lines of a description as they are printed. The first one is indented even if it is
empty. -/
def printedLines (t : Text) : List Text :=
  match descriptionLines t with
  | [] => []
  | first :: rest => (List.replicate indentation ' ' ++ first) :: rest.map indentedLine

theorem printedLines_eq {t first : Text} {rest : List Text}
    (h : descriptionLines t = first :: rest) :
    printedLines t = (List.replicate indentation ' ' ++ first) :: rest.map indentedLine := by
  rw [printedLines, h]

theorem printedLines_ne_nil (t : Text) : printedLines t ≠ [] := by
  obtain ⟨first, rest, hlines⟩ := exists_descriptionLines_eq t
  simp [printedLines_eq hlines]

theorem flatMap_visible_printedLines (t : Text) :
    (printedLines t).flatMap visible = visible (escaped t) := by
  obtain ⟨first, rest, hlines⟩ := exists_descriptionLines_eq t
  have hspaces : isAllBlank (List.replicate indentation ' ') = true := by decide
  rw [← flatMap_visible_descriptionLines, hlines, printedLines_eq hlines, List.flatMap_cons,
    List.flatMap_cons, List.flatMap_map, visible_append, visible_eq_nil_iff.mpr hspaces]
  simp only [visible_indentedLine, List.nil_append]

theorem of_mem_printedLines {t line : Text} (h : line ∈ printedLines t) :
    line = [] ∨ ∃ row ∈ descriptionLines t, line = List.replicate indentation ' ' ++ row := by
  obtain ⟨first, rest, hlines⟩ := exists_descriptionLines_eq t
  rw [printedLines_eq hlines] at h
  rw [hlines]
  rcases List.mem_cons.mp h with rfl | h
  · exact .inr ⟨first, List.mem_cons_self, rfl⟩
  · obtain ⟨row, hrow, rfl⟩ := List.mem_map.mp h
    rw [indentedLine]
    split
    · exact .inl rfl
    · exact .inr ⟨row, List.mem_cons_of_mem _ hrow, rfl⟩

theorem describedPart_eq {t : Text} (ht : t ≠ []) :
    describedPart t = joined ['\n'] (printedLines t) ++ '\n' :: ['\n'] := by
  obtain ⟨first, rest, hlines⟩ := exists_descriptionLines_eq t
  calc describedPart t
    _ = List.replicate indentation ' ' ++ (descriptionBlock t ++ ['\n']) ++ ['\n'] := by
      rw [describedPart, if_neg ht]
      simp [indentation]
    _ = (printedLines t).flatMap (· ++ ['\n']) ++ ['\n'] := by
      rw [descriptionBlock_eq hlines, printedLines_eq hlines]
      simp [List.flatMap_map]
    _ = joined ['\n'] (printedLines t) ++ '\n' :: ['\n'] := by
      rw [← joined_append_separator (printedLines_ne_nil t), List.append_assoc]
      rfl

theorem pieces_describedPart {t : Text} (ht : t ≠ []) :
    pieces '\n' (describedPart t) = printedLines t ++ [[], []] := by
  have hlines : ∀ line ∈ printedLines t, '\n' ∉ line := by
    intro line hline hmem
    rcases of_mem_printedLines hline with rfl | ⟨row, hrow, rfl⟩
    · exact List.not_mem_nil hmem
    · rcases List.mem_append.mp hmem with hspace | hmem
      · exact absurd (List.eq_of_mem_replicate hspace) (by decide)
      · exact absurd (not_isLineBoundary_of_mem_lines hrow hmem) (by decide)
  rw [describedPart_eq ht, pieces_append_cons, pieces_joined (printedLines_ne_nil t) hlines]
  rfl

/-- What a trait prints for a description shows the same as the escaped description, character by
character, and every line of it is empty or has at most 92 characters behind four spaces. -/
theorem layout_of_describedPart (t : Text) :
    visible (describedPart t) = visible (escaped t) ∧
      ∀ line ∈ pieces '\n' (describedPart t), line = [] ∨
        ∃ row, line = List.replicate 4 ' ' ++ row ∧ row.length ≤ 92 ∧
          ∀ c ∈ row, isLineBoundary c = false := by
  by_cases ht : t = []
  · subst ht
    exact ⟨rfl, fun line hline => .inl (List.mem_singleton.mp hline)⟩
  · constructor
    · have hbreak : isAllBlank ['\n'] = true := by decide
      have hend : isAllBlank ['\n', '\n'] = true := by decide
      rw [describedPart_eq ht, visible_append, visible_eq_nil_iff.mpr hend, List.append_nil,
        visible_joined hbreak, flatMap_visible_printedLines]
    · intro line hline
      rw [pieces_describedPart ht] at hline
      rcases List.mem_append.mp hline with hline | hempty
      · refine (of_mem_printedLines hline).imp_right ?_
        rintro ⟨row, hrow, rfl⟩
        exact ⟨row, rfl, length_of_mem_descriptionLines hrow, fun c hc =>
          not_isLineBoundary_of_mem_lines hrow hc⟩
      · exact .inl (by simpa using hempty)

end VocabBindings.Module
