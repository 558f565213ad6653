import VocabBindings.Proofs.Text.Rows
import VocabBindings.Text.Blank

/-!
What wrapping keeps. The visible characters of a text are those that are not blank. Breaking a text
into lines, filling lines anew and cutting long words take blank characters away at most, and leave
the visible ones in their order; and no row is longer than the width.
-/

set_option autoImplicit false

namespace VocabBindings.Text

def visible (t : Text) : Text := t.filter fun c => !isBlank c

@[simp] theorem visible_append (t u : Text) : visible (t ++ u) = visible t ++ visible u :=
  List.filter_append t u

theorem visible_cons (c : Char) (t : Text) : visible (c :: t) = visible [c] ++ visible t :=
  visible_append [c] t

theorem visible_flatten (parts : List Text) : visible parts.flatten = parts.flatMap visible :=
  List.filter_flatten

theorem visible_eq_nil_iff {t : Text} : visible t = [] ↔ isAllBlank t = true := by
  simp [visible, isAllBlank]

theorem visible_joined {separator : Text} (h : isAllBlank separator = true) (parts : List Text) :
    visible (joined separator parts) = parts.flatMap visible := by
  induction parts with
  | nil => rfl
  | cons p ps ih =>
    cases ps with
    | nil => simp [joined]
    | cons q qs =>
      rw [joined, List.intercalate_cons_cons, visible_append, visible_append,
        visible_eq_nil_iff.mpr h, List.append_nil, ← joined, ih, ← List.flatMap_cons]

/-! Lines. -/

theorem isBlank_of_isLineBoundary {c : Char} (h : isLineBoundary c = true) : isBlank c = true := by
  simp only [isLineBoundary, isBlank, blankRanges, inRanges] at h ⊢
  grind

theorem flatMap_visible_lines (t : Text) : (lines t).flatMap visible = visible t := by
  have hboundary : ∀ {c : Char}, isLineBoundary c = true →
      ∀ rest, visible (c :: rest) = visible rest := by
    intro c hc rest
    have hblank : isAllBlank [c] = true := by simp [isAllBlank, isBlank_of_isLineBoundary hc]
    rw [visible_cons, visible_eq_nil_iff.mpr hblank, List.nil_append]
  fun_induction lines t with
  | case1 => rfl
  | case2 rest ih => rw [List.flatMap_cons, ih, hboundary (by decide), hboundary (by decide)]; rfl
  | case3 c rest hcrlf hc ih => rw [List.flatMap_cons, ih, hboundary hc]; rfl
  | case4 c rest hcrlf hc hnil ih =>
    rw [hnil] at ih
    rw [visible_cons, ← ih]
    rfl
  | case5 c rest hcrlf hc first more hlines ih =>
    rw [hlines, List.flatMap_cons] at ih
    rw [List.flatMap_cons, visible_cons, visible_cons c rest, ← ih, List.append_assoc]

/-! Chunks. -/

theorem flatMap_visible_dropBlankStart (cs : List Text) :
    (dropBlankStart cs).flatMap visible = cs.flatMap visible := by
  cases cs with
  | nil => rfl
  | cons c cs =>
    rw [dropBlankStart]
    split
    · rename_i hblank
      rw [List.flatMap_cons, visible_eq_nil_iff.mpr hblank, List.nil_append]
    · rfl

theorem flatMap_visible_dropBlankEnd (cs : List Text) :
    (dropBlankEnd cs).flatMap visible = cs.flatMap visible := by
  unfold dropBlankEnd
  split
  · rename_i last hlast
    split
    · rename_i hblank
      obtain ⟨lead, rfl⟩ := List.getLast?_eq_some_iff.mp hlast
      simp [visible_eq_nil_iff.mpr hblank]
    · rfl
  · rfl

theorem flatMap_visible_takeLine (width : Nat) (cs : List Text) :
    (takeLine width cs).1.flatMap visible ++ (takeLine width cs).2.flatMap visible =
      cs.flatMap visible := by
  rw [← visible_flatten, ← visible_flatten, ← visible_append, flatten_takeLine, visible_flatten]

variable {width : Nat} {h : 0 < width}

theorem flatMap_visible_fillLines (begun : Bool) (cs : List Text) :
    (fillLines width h begun cs).flatMap visible = cs.flatMap visible := by
  -- A line is filled from what is left without a blank start, and that shows the same.
  have hstart : ∀ (begun : Bool) (cs : List Text),
      (if _ : begun = true then dropBlankStart cs else cs).flatMap visible =
        cs.flatMap visible := by
    intro begun cs
    split
    · exact flatMap_visible_dropBlankStart cs
    · rfl
  fun_induction fillLines width h begun cs with
  | case1 begun cs heq => rw [← hstart begun cs, heq]
  | case2 begun cs d ds heq line hline ih =>
    have hvisible := flatMap_visible_takeLine width (d :: ds)
    have hend := flatMap_visible_dropBlankEnd (takeLine width (d :: ds)).1
    rw [show dropBlankEnd (takeLine width (d :: ds)).1 = [] from hline] at hend
    rw [ih, ← hstart begun cs, heq, ← hvisible, ← hend]
    rfl
  | case3 begun cs d ds heq line hline ih =>
    have hvisible := flatMap_visible_takeLine width (d :: ds)
    have hend := flatMap_visible_dropBlankEnd (takeLine width (d :: ds)).1
    rw [List.flatMap_cons, ih, ← hstart begun cs, heq, ← hvisible, ← hend, visible_flatten]

theorem flatMap_visible_rowsOf (line : Text) :
    (rowsOf width h line).flatMap visible = visible line := by
  have hfilled := flatMap_visible_fillLines (h := h) false (chunks line)
  rw [← visible_flatten (chunks line), flatten_chunks] at hfilled
  rw [← hfilled]
  unfold rowsOf
  split
  · rename_i hnil
    rw [hnil]
    rfl
  · rfl

/-- The rows show what the text shows. -/
theorem flatMap_visible_rows (t : Text) : (rows width h t).flatMap visible = visible t := by
  rw [rows, List.flatMap_assoc, ← flatMap_visible_lines t]
  simp only [flatMap_visible_rowsOf]

/-! Widths. -/

theorem size_nil : size [] = 0 := rfl

theorem size_cons (c : Text) (cs : List Text) : size (c :: cs) = c.length + size cs := by
  simp [size]

theorem size_append (as bs : List Text) : size (as ++ bs) = size as + size bs := by
  simp [size]

theorem size_fill_le (room : Nat) (cs : List Text) : size (fill room cs).1 ≤ room := by
  induction cs generalizing room with
  | nil => simp [fill, size]
  | cons c cs ih =>
    unfold fill
    split
    · have hrest := ih (room - c.length)
      simp only [size_cons]
      omega
    · simp [size]

theorem length_lt_of_splitLast {mark : Char} {t lead tail : Text}
    (h : splitLast mark t = (some lead, tail)) : lead.length < t.length := by
  unfold splitLast at h
  split at h
  · simp at h
  · rename_i c before heq
    obtain ⟨rfl, -⟩ : before.reverse = lead ∧ _ := by simpa using h
    have hsuffix := (List.dropWhile_suffix (l := t.reverse) (· ≠ mark)).length_le
    rw [heq, List.length_cons, List.length_reverse] at hsuffix
    rw [List.length_reverse]
    omega

theorem cutPoint_le (room : Nat) (c : Text) : cutPoint room c ≤ room := by
  unfold cutPoint
  split
  · rename_i lead tail hsplit
    split
    · have hlead := length_lt_of_splitLast hsplit
      rw [List.length_take] at hlead
      omega
    · exact Nat.le_refl room
  · exact Nat.le_refl room

theorem size_takeLine_le (width : Nat) (cs : List Text) : size (takeLine width cs).1 ≤ width := by
  have hfill := size_fill_le width cs
  unfold takeLine
  split
  · rename_i taken heq
    rwa [heq] at hfill
  · rename_i taken c left heq
    rw [heq] at hfill
    split
    · have hcut := cutPoint_le (width - size taken) c
      simp only [size_append, size_cons, List.length_take, size_nil]
      dsimp only at hfill
      omega
    · exact hfill

theorem length_of_mem_fillLines {begun : Bool} {cs : List Text} {row : Text}
    (hm : row ∈ fillLines width h begun cs) : row.length ≤ width := by
  fun_induction fillLines width h begun cs with
  | case1 => simp at hm
  | case2 begun cs d ds heq line hline ih => exact ih hm
  | case3 begun cs d ds heq line hline ih =>
    rcases List.mem_cons.mp hm with rfl | hm
    · have hlead := (prefix_dropBlankEnd (takeLine width (d :: ds)).1).flatten.length_le
      exact hlead.trans (size_takeLine_le width (d :: ds))
    · exact ih hm

theorem length_of_mem_rows {t row : Text} (hm : row ∈ rows width h t) : row.length ≤ width := by
  obtain ⟨line, -, hr⟩ := List.mem_flatMap.mp hm
  unfold rowsOf at hr
  split at hr
  · simp [List.mem_singleton.mp hr]
  · exact length_of_mem_fillLines hr

end VocabBindings.Text
