import Mathlib.Data.List.Infix
import VocabBindings.Text.Wrapping

/-!
The rows of a wrapped text. Every line of a text is broken into rows, and the wrapped text is all
rows with a line feed between two of them, so that its lines are the rows again. Wrapping only cuts
and drops: a row is a connected part of the text.
-/

set_option autoImplicit false

namespace VocabBindings.Text

/-! Joined texts. -/

theorem joined_append {separator : Text} {as bs : List Text} (ha : as ≠ []) (hb : bs ≠ []) :
    joined separator (as ++ bs) = joined separator as ++ separator ++ joined separator bs := by
  obtain ⟨b, bs, rfl⟩ := List.exists_cons_of_ne_nil hb
  induction as with
  | nil => exact absurd rfl ha
  | cons a as ih =>
    cases as with
    | nil => simp [joined]
    | cons a' as =>
      have hrest := ih (by simp)
      simp only [joined, List.cons_append, List.intercalate_cons_cons, List.append_assoc] at hrest ⊢
      rw [hrest]

theorem joined_flatMap {α : Type} {separator : Text} {f : α → List Text} {as : List α}
    (h : ∀ a ∈ as, f a ≠ []) :
    joined separator (as.flatMap f) =
      joined separator (as.map fun a => joined separator (f a)) := by
  induction as with
  | nil => rfl
  | cons a as ih =>
    have hrest := ih fun b hb => h b (List.mem_cons_of_mem _ hb)
    cases as with
    | nil => simp [joined]
    | cons b bs =>
      have hne : (b :: bs).flatMap f ≠ [] := by simp [h b]
      rw [List.flatMap_cons, joined_append (h a List.mem_cons_self) hne, hrest]
      simp [joined]

theorem joined_append_separator {separator : Text} {parts : List Text} (h : parts ≠ []) :
    joined separator parts ++ separator = parts.flatMap (· ++ separator) := by
  induction parts with
  | nil => exact absurd rfl h
  | cons p ps ih =>
    cases ps with
    | nil => simp [joined]
    | cons q qs =>
      have hrest := ih (by simp)
      simp only [joined, List.intercalate_cons_cons, List.append_assoc, List.flatMap_cons]
        at hrest ⊢
      rw [hrest]

/-! Lines. -/

theorem lines_append_newline {l : Text} (h : ∀ c ∈ l, isLineBoundary c = false) (rest : Text) :
    lines (l ++ '\n' :: rest) = l :: lines rest := by
  induction l with
  | nil => rfl
  | cons c l ih =>
    have hc := h c List.mem_cons_self
    have hrest := ih fun d hd => h d (List.mem_cons_of_mem _ hd)
    rw [List.cons_append, lines, hrest]
    · simp [hc]
    · rintro _ rfl -
      exact absurd hc (by decide)

theorem lines_joined {ls : List Text} (hne : ls ≠ [])
    (h : ∀ l ∈ ls, ∀ c ∈ l, isLineBoundary c = false) :
    lines (joined ['\n'] ls ++ ['\n']) = ls := by
  rw [joined_append_separator hne]
  clear hne
  induction ls with
  | nil => rfl
  | cons l ls ih =>
    have hl := lines_append_newline (h l List.mem_cons_self) (ls.flatMap (· ++ ['\n']))
    rw [List.flatMap_cons, List.append_assoc, List.singleton_append, hl,
      ih fun m hm => h m (List.mem_cons_of_mem _ hm)]

theorem not_isLineBoundary_of_mem_lines {t l : Text} (hl : l ∈ lines t) {c : Char} (hc : c ∈ l) :
    isLineBoundary c = false := by
  fun_induction lines t generalizing l with
  | case1 => simp at hl
  | case2 rest ih =>
    rcases List.mem_cons.mp hl with rfl | hl
    · simp at hc
    · exact ih hl hc
  | case3 d rest hcrlf hd ih =>
    rcases List.mem_cons.mp hl with rfl | hl
    · simp at hc
    · exact ih hl hc
  | case4 d rest hcrlf hd hnil ih =>
    obtain rfl := List.mem_singleton.mp hl
    obtain rfl := List.mem_singleton.mp hc
    simpa using hd
  | case5 d rest hcrlf hd first more hlines ih =>
    rw [hlines] at ih
    rcases List.mem_cons.mp hl with rfl | hl
    · rcases List.mem_cons.mp hc with rfl | hc
      · simpa using hd
      · exact ih List.mem_cons_self hc
    · exact ih (List.mem_cons_of_mem _ hl) hc

theorem head_prefix_and_infix_of_mem_lines {t : Text} :
    (∀ l ∈ (lines t).head?, l <+: t) ∧ ∀ l ∈ lines t, l <:+: t := by
  fun_induction lines t with
  | case1 => simp
  | case2 rest ih =>
    refine ⟨by simp, List.forall_mem_cons.mpr ⟨List.nil_infix, fun l hl => ?_⟩⟩
    exact (ih.2 l hl).trans (List.suffix_append ['\r', '\n'] rest).isInfix
  | case3 d rest hcrlf hd ih =>
    refine ⟨by simp, List.forall_mem_cons.mpr ⟨List.nil_infix, fun l hl => ?_⟩⟩
    exact (ih.2 l hl).trans (List.suffix_cons d rest).isInfix
  | case4 d rest hcrlf hd hnil ih =>
    have hd : [d] <+: d :: rest := ⟨rest, rfl⟩
    exact ⟨by simp, by simpa using hd.isInfix⟩
  | case5 d rest hcrlf hd first more hlines ih =>
    rw [hlines] at ih
    have hfirst : d :: first <+: d :: rest := (List.prefix_cons_inj d).mpr (ih.1 first rfl)
    refine ⟨by simpa using hfirst, List.forall_mem_cons.mpr ⟨hfirst.isInfix, fun l hl => ?_⟩⟩
    exact (ih.2 l (List.mem_cons_of_mem _ hl)).trans (List.suffix_cons d rest).isInfix

/-! Rows. -/

theorem flatten_takeLine (width : Nat) (cs : List Text) :
    (takeLine width cs).1.flatten ++ (takeLine width cs).2.flatten = cs.flatten := by
  have happ := congrArg List.flatten (append_fill width cs)
  rw [List.flatten_append] at happ
  unfold takeLine
  split
  · rename_i taken hfill
    simpa [hfill] using happ
  · rename_i taken c left hfill
    simp only [hfill, List.flatten_cons] at happ
    split
    · simp only [List.flatten_append, List.flatten_cons, List.flatten_nil, List.append_nil,
        List.append_assoc]
      rw [← happ, ← List.append_assoc (List.take _ c), List.take_append_drop]
    · exact happ

theorem prefix_dropBlankEnd (cs : List Text) : dropBlankEnd cs <+: cs := by
  unfold dropBlankEnd
  split
  · split
    · exact List.dropLast_prefix cs
    · exact List.prefix_rfl
  · exact List.prefix_rfl

theorem dropBlankStart_suffix (cs : List Text) : dropBlankStart cs <:+ cs := by
  cases cs with
  | nil => exact List.suffix_rfl
  | cons c cs =>
    rw [dropBlankStart]
    split
    · exact List.suffix_cons c cs
    · exact List.suffix_rfl

theorem infix_of_mem_fillLines {width : Nat} {h : 0 < width} {begun : Bool} {cs : List Text}
    {row : Text} (hm : row ∈ fillLines width h begun cs) : row <:+: cs.flatten := by
  -- Whether a blank start is dropped or not, what is filled into lines is an end of the chunks.
  have hstart : ∀ (begun : Bool) (cs : List Text),
      (if _ : begun = true then dropBlankStart cs else cs) <:+ cs := by
    intro begun cs
    split
    · exact dropBlankStart_suffix cs
    · exact List.suffix_rfl
  fun_induction fillLines width h begun cs with
  | case1 => simp at hm
  | case2 begun cs d ds heq line hline ih =>
    have hsplit := flatten_takeLine width (d :: ds)
    have hsuffix : (d :: ds).flatten <:+ cs.flatten := (heq ▸ hstart begun cs).flatten
    have hrest : (takeLine width (d :: ds)).2.flatten <:+ (d :: ds).flatten := ⟨_, hsplit⟩
    exact (ih hm).trans (hrest.trans hsuffix).isInfix
  | case3 begun cs d ds heq line hline ih =>
    have hsplit := flatten_takeLine width (d :: ds)
    have hsuffix : (d :: ds).flatten <:+ cs.flatten := (heq ▸ hstart begun cs).flatten
    rcases List.mem_cons.mp hm with rfl | hm
    · have htaken : (takeLine width (d :: ds)).1.flatten <+: (d :: ds).flatten := ⟨_, hsplit⟩
      exact ((prefix_dropBlankEnd _).flatten.trans htaken).isInfix.trans hsuffix.isInfix
    · have hrest : (takeLine width (d :: ds)).2.flatten <:+ (d :: ds).flatten := ⟨_, hsplit⟩
      exact (ih hm).trans (hrest.trans hsuffix).isInfix

/-- The rows that a line is broken into. A line of blanks is an empty row. -/
def rowsOf (width : Nat) (h : 0 < width) (line : Text) : List Text :=
  match fillLines width h false (chunks line) with
  | [] => [[]]
  | rows => rows

theorem rowsOf_ne_nil (width : Nat) (h : 0 < width) (line : Text) : rowsOf width h line ≠ [] := by
  unfold rowsOf
  split
  · simp
  · assumption

theorem joined_rowsOf (width : Nat) (h : 0 < width) (line : Text) :
    joined ['\n'] (rowsOf width h line) =
      joined ['\n'] (fillLines width h false (chunks line)) := by
  unfold rowsOf
  split
  · rename_i hnil
    rw [hnil]
    rfl
  · rfl

theorem infix_of_mem_rowsOf {width : Nat} {h : 0 < width} {line row : Text}
    (hm : row ∈ rowsOf width h line) : row <:+: line := by
  unfold rowsOf at hm
  split at hm
  · rw [List.mem_singleton.mp hm]
    exact List.nil_infix
  · rw [← flatten_chunks line]
    exact infix_of_mem_fillLines hm

def rows (width : Nat) (h : 0 < width) (t : Text) : List Text :=
  (lines t).flatMap (rowsOf width h)

theorem wrapped_eq_joined_rows (width : Nat) (h : 0 < width) (t : Text) :
    wrapped width h t = joined ['\n'] (rows width h t) := by
  rw [rows, joined_flatMap fun line _ => rowsOf_ne_nil width h line, wrapped]
  simp only [joined_rowsOf]

theorem infix_of_mem_rows {width : Nat} {h : 0 < width} {t row : Text} (hm : row ∈ rows width h t) :
    row <:+: t := by
  obtain ⟨line, hl, hr⟩ := List.mem_flatMap.mp hm
  exact (infix_of_mem_rowsOf hr).trans (head_prefix_and_infix_of_mem_lines.2 line hl)

theorem lines_ne_nil {t : Text} (h : t ≠ []) : lines t ≠ [] := by
  fun_cases lines t with
  | case1 => exact absurd rfl h
  | case2 => simp
  | case3 => simp
  | case4 => simp
  | case5 => simp

theorem rows_ne_nil {width : Nat} {h : 0 < width} {t : Text} (hne : t ≠ []) :
    rows width h t ≠ [] := by
  obtain ⟨line, more, hlines⟩ := List.exists_cons_of_ne_nil (lines_ne_nil hne)
  simp [rows, hlines, rowsOf_ne_nil]

theorem lines_wrapped {width : Nat} {h : 0 < width} {t : Text} (hne : t ≠ []) :
    lines (wrapped width h t ++ ['\n']) = rows width h t := by
  rw [wrapped_eq_joined_rows]
  refine lines_joined (rows_ne_nil hne) fun row hm c hc => ?_
  obtain ⟨line, hl, hr⟩ := List.mem_flatMap.mp hm
  exact not_isLineBoundary_of_mem_lines hl ((infix_of_mem_rowsOf hr).subset hc)

end VocabBindings.Text
