import VocabBindings.Text.Chunk
import VocabBindings.Text.Lines

/-!
Wrapping. Every line of a text is filled anew with chunks up to a width. Blank chunks are dropped
at the ends of the new lines, except before the first chunk of a text line, and a chunk longer than
the width is cut, after its last hyphen that fits if something else comes before that hyphen.
-/

set_option autoImplicit false

namespace VocabBindings.Text

def fill (room : Nat) : List Text → List Text × List Text
  | [] => ([], [])
  | c :: cs =>
    if c.length ≤ room then
      let (taken, left) := fill (room - c.length) cs
      (c :: taken, left)
    else ([], c :: cs)

theorem append_fill (room : Nat) (cs : List Text) : (fill room cs).1 ++ (fill room cs).2 = cs := by
  induction cs generalizing room with
  | nil => simp [fill]
  | cons c cs ih =>
    unfold fill
    split
    · simp [ih]
    · simp

def size (cs : List Text) : Nat := cs.flatten.length

/-- Where a chunk is cut that is longer than the room left on its line: after the last hyphen in
the room, if a character other than a hyphen comes before it, and else where the room ends. -/
def cutPoint (room : Nat) (c : Text) : Nat :=
  match splitLast '-' (c.take room) with
  | (some lead, _) => if lead.any (· ≠ '-') then lead.length + 1 else room
  | (none, _) => room

theorem cutPoint_pos {room : Nat} (h : 0 < room) (c : Text) : 0 < cutPoint room c := by
  unfold cutPoint
  split
  · split <;> omega
  · exact h

/-- The chunks of the next line and the chunks after it. A chunk too long for any line is cut, and
its first part ends the line, even if that part is empty. -/
def takeLine (width : Nat) (cs : List Text) : List Text × List Text :=
  match fill width cs with
  | (taken, []) => (taken, [])
  | (taken, c :: left) =>
    if width < c.length then
      let cut := cutPoint (width - size taken) c
      (taken ++ [c.take cut], c.drop cut :: left)
    else (taken, c :: left)

def dropBlankEnd (cs : List Text) : List Text :=
  match cs.getLast? with
  | some last => if isAllBlank last then cs.dropLast else cs
  | none => cs

def dropBlankStart : List Text → List Text
  | [] => []
  | c :: cs => if isAllBlank c then cs else c :: cs

/-- The room that chunks take, each with one place to spare. It shrinks from line to line. -/
def extent : List Text → Nat
  | [] => 0
  | c :: cs => c.length + 1 + extent cs

theorem extent_append (as bs : List Text) : extent (as ++ bs) = extent as + extent bs := by
  induction as with
  | nil => simp [extent]
  | cons a as ih =>
    simp only [List.cons_append, extent, ih]
    omega

theorem extent_dropBlankStart_le (cs : List Text) : extent (dropBlankStart cs) ≤ extent cs := by
  cases cs with
  | nil => simp [dropBlankStart]
  | cons c cs =>
    by_cases h : isAllBlank c <;> simp [dropBlankStart, extent, h]

theorem extent_cons (c : Text) (cs : List Text) : extent (c :: cs) = c.length + 1 + extent cs := by
  simp [extent]

theorem extent_takeLine_lt {width : Nat} (h : 0 < width) {c : Text} {cs : List Text} :
    extent (takeLine width (c :: cs)).2 < extent (c :: cs) := by
  have happ := append_fill width (c :: cs)
  unfold takeLine
  split
  · rw [extent_cons]
    simp only [extent]
    omega
  · rename_i taken d left hfill
    rw [hfill] at happ
    simp only at happ
    have hext : extent (c :: cs) = extent taken + extent (d :: left) := by
      rw [← extent_append, happ]
    split
    · rw [hext, extent_cons, extent_cons, List.length_drop]
      cases taken with
      | nil =>
        have hpos : 0 < cutPoint (width - size []) d := cutPoint_pos (by simpa [size] using h) d
        omega
      | cons t ts =>
        rw [extent_cons]
        omega
    · cases taken with
      | nil =>
        have hcd : d = c := (List.cons.inj happ).1
        subst hcd
        have hle : d.length ≤ width := by omega
        simp [fill, hle] at hfill
      | cons t ts =>
        rw [hext, extent_cons t ts]
        show extent (d :: left) < _
        omega

/-- Fills lines with chunks. The flag says whether a line was written before; then a blank first
chunk is dropped. -/
def fillLines (width : Nat) (h : 0 < width) (begun : Bool) (cs : List Text) : List Text :=
  match _h : (if begun then dropBlankStart cs else cs) with
  | [] => []
  | d :: ds =>
    let line := dropBlankEnd (takeLine width (d :: ds)).1
    if line = [] then fillLines width h begun (takeLine width (d :: ds)).2
    else line.flatten :: fillLines width h true (takeLine width (d :: ds)).2
termination_by extent cs
decreasing_by
  all_goals
    have hle : extent (d :: ds) ≤ extent cs := by
      rw [← _h]
      split
      · exact extent_dropBlankStart_le cs
      · exact Nat.le_refl _
    exact Nat.lt_of_lt_of_le (extent_takeLine_lt h) hle

def wrapped (width : Nat) (h : 0 < width) (t : Text) : Text :=
  joined ['\n'] ((lines t).map fun l => joined ['\n'] (fillLines width h false (chunks l)))

end VocabBindings.Text
