import VocabBindings.Proofs.Files.Making

/-!
Writing and moving files. Both change the files at the places of their paths and nothing else, a
folder stays a folder, and what was written is read at its path until something is written there
again.
-/

set_option autoImplicit false

namespace VocabBindings.Files

/-- A tree that differs from another one in the files at some places and in folders that are new on
the way to a path. -/
structure Altered (way : Text) (places : List Place) (t next : Tree) : Prop where
  kept : ∀ q, q ∉ places → next.find? q = t.find? q ∨
    (t.find? q = none ∧ next.find? q = some .folder ∧ OnTheWay way q)
  folders : ∀ q, t.find? q = some .folder → next.find? q = some .folder

namespace Tree

variable {t next : Tree} {path target : Text} {bytes : Bytes}

/-! Reading. -/

theorem read_eq_ok_iff : t.read path = .ok bytes ↔ t.look path = .ok (.file bytes) := by
  unfold read
  split <;> simp_all

theorem hasFile_iff : t.hasFile path = true ↔ ∃ bytes, t.read path = .ok bytes := by
  simp only [read_eq_ok_iff]
  unfold hasFile
  split
  · rename_i bytes hlook
    exact ⟨fun _ => ⟨bytes, hlook⟩, fun _ => rfl⟩
  · rename_i hlook
    exact ⟨fun h => absurd h Bool.false_ne_true, fun ⟨bytes, h⟩ => absurd h (hlook bytes)⟩

theorem exists_of_read (h : t.read path = .ok bytes) :
    t.locate path = .ok (placeOf path) ∧ t.find? (placeOf path) = some (.file bytes) ∧
      path.getLast? ≠ some '/' := by
  rw [read_eq_ok_iff] at h
  obtain ⟨place, hlocate, hfind⟩ := exists_of_look h
  obtain rfl := (locate_eq_ok hlocate).1
  refine ⟨hlocate, hfind, fun hslash => ?_⟩
  simp [look, hlocate, hfind, hslash] at h

theorem read_of_locate {place : Place} (hlocate : t.locate path = .ok place)
    (hfind : t.find? place = some (.file bytes)) (hslash : path.getLast? ≠ some '/') :
    t.read path = .ok bytes := by
  rw [read_eq_ok_iff, look, hlocate]
  simp only [hfind, if_neg hslash]

/-! Writing. -/

theorem exists_of_write (h : t.write path bytes = .ok next) :
    t.locate path = .ok (placeOf path) ∧ path.getLast? ≠ some '/' ∧
      t.find? (placeOf path) ≠ some .folder ∧ next = t.put (placeOf path) (.file bytes) := by
  unfold write at h
  split at h
  · cases h
  · rename_i place hlocate
    obtain rfl := (locate_eq_ok hlocate).1
    split at h
    · cases h
    · rename_i hfree
      simp only [Bool.or_eq_true, decide_eq_true_eq, not_or] at hfree
      obtain ⟨⟩ := h
      exact ⟨hlocate, hfree.1, hfree.2, rfl⟩

theorem find?_put_of_ne {place q : Place} (h : q ≠ place) (t : Tree) (node : Node) :
    (t.put place node).find? q = t.find? q := by
  by_cases hroot : q = []
  · subst hroot
    rfl
  · rw [find?_put hroot, if_neg (Ne.symm h)]

theorem find?_of_write (h : t.write path bytes = .ok next) {q : Place} (hq : q ≠ placeOf path) :
    next.find? q = t.find? q := by
  obtain ⟨-, -, -, rfl⟩ := exists_of_write h
  exact find?_put_of_ne hq t _

theorem altered_of_write (way : Text) (h : t.write path bytes = .ok next) :
    Altered way [placeOf path] t next := by
  refine ⟨fun q hq => .inl (find?_of_write h (List.ne_of_not_mem_cons hq)), fun q hq => ?_⟩
  rw [find?_of_write h, hq]
  obtain ⟨-, -, hfree, -⟩ := exists_of_write h
  exact fun heq => hfree (heq ▸ hq)

theorem read_of_write (h : t.write path bytes = .ok next) : next.read path = .ok bytes := by
  have haltered := altered_of_write [] h
  obtain ⟨hlocate, hslash, hfree, rfl⟩ := exists_of_write h
  have hne : placeOf path ≠ [] := fun hroot => hfree (by rw [hroot]; rfl)
  refine read_of_locate (locate_of_folders haltered.folders hlocate) ?_ hslash
  rw [find?_put hne, if_pos rfl]

/-! Moving. -/

theorem exists_of_move (h : t.move path target = .ok next) :
    ∃ bytes, t.read path = .ok bytes ∧ t.locate target = .ok (placeOf target) ∧
      t.find? (placeOf target) ≠ some .folder ∧
      next = (t.erase (placeOf path)).put (placeOf target) (.file bytes) := by
  unfold move at h
  split at h
  · rename_i place bytes goal hlocate hlook hgoal
    obtain rfl := (locate_eq_ok hlocate).1
    obtain rfl := (locate_eq_ok hgoal).1
    split at h
    · cases h
    · rename_i hfree
      obtain ⟨⟩ := h
      exact ⟨bytes, read_eq_ok_iff.mpr hlook, hgoal, hfree, rfl⟩
  · cases h
  · cases h
  · cases h
  · cases h

theorem find?_of_move (h : t.move path target = .ok next) {q : Place} (hpath : q ≠ placeOf path)
    (htarget : q ≠ placeOf target) : next.find? q = t.find? q := by
  obtain ⟨bytes, -, -, -, rfl⟩ := exists_of_move h
  rw [find?_put_of_ne htarget]
  by_cases hroot : q = []
  · subst hroot
    rfl
  · rw [find?_erase hroot, if_neg (Ne.symm hpath)]

theorem altered_of_move (way : Text) (h : t.move path target = .ok next) :
    Altered way [placeOf path, placeOf target] t next := by
  constructor
  · intro q hq
    simp only [List.mem_cons, List.not_mem_nil, or_false, not_or] at hq
    exact .inl (find?_of_move h hq.1 hq.2)
  · intro q hq
    obtain ⟨bytes, hread, -, hfree, -⟩ := exists_of_move h
    obtain ⟨-, hfile, -⟩ := exists_of_read hread
    rw [find?_of_move h, hq]
    · rintro rfl
      rw [hq] at hfile
      cases hfile
    · exact fun heq => hfree (heq ▸ hq)

theorem read_of_move (h : t.move path target = .ok next) (hslash : target.getLast? ≠ some '/') :
    next.read target = t.read path := by
  have haltered := altered_of_move [] h
  obtain ⟨bytes, hread, hlocate, hfree, rfl⟩ := exists_of_move h
  have hne : placeOf target ≠ [] := fun hroot => hfree (by rw [hroot]; rfl)
  rw [hread]
  refine read_of_locate (locate_of_folders haltered.folders hlocate) ?_ hslash
  rw [find?_put hne, if_pos rfl]

end Tree

theorem Gained.altered {way : Text} {t next : Tree} (h : Gained way t next) (places : List Place) :
    Altered way places t next :=
  ⟨fun q _ => h.find? q, fun _ hq => h.folders hq⟩

namespace Altered

variable {way path : Text} {places more : List Place} {t next last : Tree} {bytes : Bytes}

theorem refl (way : Text) (places : List Place) (t : Tree) : Altered way places t t :=
  ⟨fun _ _ => .inl rfl, fun _ => id⟩

theorem mono (h : Altered way places t next) (hsub : places ⊆ more) : Altered way more t next :=
  ⟨fun q hq => h.kept q fun hmem => hq (hsub hmem), h.folders⟩

theorem trans (h : Altered way places t next) (hlast : Altered way places next last) :
    Altered way places t last := by
  refine ⟨fun q hq => ?_, fun q hq => hlast.folders q (h.folders q hq)⟩
  rcases hlast.kept q hq with heq | ⟨hnone, hfolder, hway⟩
  · rw [heq]
    exact h.kept q hq
  · rcases h.kept q hq with heq | ⟨-, hfind, -⟩
    · exact .inr ⟨heq ▸ hnone, hfolder, hway⟩
    · rw [hnone] at hfind
      cases hfind

theorem find?_eq (h : Altered way places t next) {q : Place} (hq : q ∉ places)
    (hway : ¬ OnTheWay way q) : next.find? q = t.find? q := by
  rcases h.kept q hq with heq | ⟨-, -, hon⟩
  · exact heq
  · exact absurd hon hway

theorem file_iff (h : Altered way places t next) {q : Place} (hq : q ∉ places) :
    next.find? q = some (.file bytes) ↔ t.find? q = some (.file bytes) := by
  rcases h.kept q hq with heq | ⟨hnone, hfolder, -⟩
  · rw [heq]
  · rw [hnone, hfolder]
    simp

theorem read (h : Altered way places t next) (hpath : placeOf path ∉ places)
    (hread : t.read path = .ok bytes) : next.read path = .ok bytes := by
  obtain ⟨hlocate, hfind, hslash⟩ := Tree.exists_of_read hread
  exact Tree.read_of_locate (Tree.locate_of_folders h.folders hlocate)
    ((h.file_iff hpath).mpr hfind) hslash

end Altered

end VocabBindings.Files
