import VocabBindings.Proofs.Files.Nodes
import VocabBindings.Proofs.Files.Walk

/-!
Making folders. Whether all folders could be made or not, a tree only gains folders, and only at
places on the way that were free. If they could be made, the way leads to a folder.
-/

set_option autoImplicit false

namespace VocabBindings.Files

/-- The places that a path leads through, its own place included. -/
def OnTheWay (path : Text) (q : Place) : Prop :=
  ∃ names, names <+: Text.pieces '/' path ∧ q = placeFrom [] names

theorem onTheWay_placeOf (path : Text) : OnTheWay path (placeOf path) :=
  ⟨_, List.prefix_rfl, rfl⟩

theorem exists_of_mem_foldersFrom {before t folder : Text} (h : folder ∈ foldersFrom before t) :
    ∃ rest, before ++ t = folder ++ '/' :: rest := by
  fun_induction foldersFrom before t with
  | case1 => simp at h
  | case2 before c rest hslash ih =>
    simp only [Bool.and_eq_true, decide_eq_true_eq] at hslash
    rcases List.mem_cons.mp h with rfl | h
    · exact ⟨rest, by rw [hslash.1.1.1]⟩
    · simpa using ih h
  | case3 before c rest hslash ih => simpa using ih h

theorem onTheWay_of_mem_foldersAround {path folder : Text} (h : folder ∈ foldersAround path) :
    OnTheWay path (placeOf folder) := by
  obtain ⟨rest, hpath⟩ := exists_of_mem_foldersFrom h
  rw [List.nil_append] at hpath
  refine ⟨_, ?_, rfl⟩
  rw [hpath, Text.pieces_append_cons]
  exact List.prefix_append _ _

/-- A tree that gained folders on the way to a path and nothing else. -/
structure Gained (path : Text) (t next : Tree) : Prop where
  find? : ∀ q, next.find? q = t.find? q ∨
    (t.find? q = none ∧ next.find? q = some .folder ∧ OnTheWay path q)
  wellFormed : t.WellFormed → next.WellFormed

namespace Gained

variable {path : Text} {t next last : Tree}

theorem refl (path : Text) (t : Tree) : Gained path t t := ⟨fun _ => .inl rfl, id⟩

theorem trans (h : Gained path t next) (hlast : Gained path next last) : Gained path t last := by
  refine ⟨fun q => ?_, hlast.wellFormed ∘ h.wellFormed⟩
  rcases hlast.find? q with heq | ⟨hnone, hfolder, hway⟩
  · rw [heq]
    exact h.find? q
  · rcases h.find? q with heq | ⟨-, hfind, -⟩
    · exact .inr ⟨heq ▸ hnone, hfolder, hway⟩
    · rw [hnone] at hfind
      cases hfind

theorem folders (h : Gained path t next) {q : Place} (hq : t.find? q = some .folder) :
    next.find? q = some .folder := by
  rcases h.find? q with heq | ⟨-, hfolder, -⟩
  · rw [heq, hq]
  · exact hfolder

theorem files (h : Gained path t next) {q : Place} {bytes : Bytes} :
    next.find? q = some (.file bytes) ↔ t.find? q = some (.file bytes) := by
  rcases h.find? q with heq | ⟨hnone, hfolder, -⟩
  · rw [heq]
  · rw [hnone, hfolder]
    simp

end Gained

namespace Tree

variable {path folder : Text} {t next : Tree}

theorem exists_of_makeFolder (h : t.makeFolder folder = .ok next) :
    ∃ place, t.locate folder = .ok place ∧ t.find? place = none ∧ next = t.put place .folder := by
  unfold makeFolder at h
  split at h
  · cases h
  · rename_i place hlocate
    split at h
    · cases h
    · rename_i hfind
      obtain ⟨⟩ := h
      exact ⟨place, hlocate, by simpa using hfind, rfl⟩

theorem find?_of_onTheWay {place q : Place} (h : t.walk [] (Text.pieces '/' path) = .ok place)
    (hway : OnTheWay path q) : t.find? q = some .folder := by
  obtain ⟨names, ⟨more, hmore⟩, rfl⟩ := hway
  rw [← hmore, walk_append] at h
  split at h
  · cases h
  · rename_i reached hreached
    obtain ⟨rfl, hfolders⟩ := walk_eq_ok hreached
    exact hfolders t.reaches_nil _ List.prefix_rfl

theorem find?_of_gained {place : Place} (h : t.walk [] (Text.pieces '/' path) = .ok place)
    (hgained : Gained path t next) (q : Place) : next.find? q = t.find? q := by
  rcases hgained.find? q with heq | ⟨hnone, -, hway⟩
  · exact heq
  · rw [find?_of_onTheWay h hway] at hnone
    cases hnone

theorem gained_of_makeFolder (hway : OnTheWay path (placeOf folder))
    (h : t.makeFolder folder = .ok next) : Gained path t next := by
  obtain ⟨place, hlocate, hfind, rfl⟩ := exists_of_makeFolder h
  obtain rfl := (locate_eq_ok hlocate).1
  refine ⟨fun q => ?_, fun ht => ht.put (fun _ => slash_not_mem_placeOf) .folder⟩
  by_cases hq : q = []
  · subst hq
    exact .inl rfl
  · rw [find?_put hq]
    split
    · rename_i heq
      exact .inr ⟨heq ▸ hfind, rfl, heq ▸ hway⟩
    · exact .inl rfl

theorem hasFolder_iff : t.hasFolder folder = true ↔ t.look folder = .ok .folder := by
  unfold hasFolder
  split <;> simp_all

theorem ensureFolder_cases (h : t.ensureFolder folder = .ok next) :
    t.makeFolder folder = .ok next ∨ (next = t ∧ t.look folder = .ok .folder) := by
  unfold ensureFolder at h
  split at h
  · rename_i made hmake
    obtain ⟨⟩ := h
    exact .inl hmake
  · split at h
    · rename_i hfolder
      obtain ⟨⟩ := h
      exact .inr ⟨rfl, hasFolder_iff.mp hfolder⟩
    · cases h

theorem gained_of_ensureFolder (hway : OnTheWay path (placeOf folder))
    (h : t.ensureFolder folder = .ok next) : Gained path t next := by
  rcases ensureFolder_cases h with hmake | ⟨rfl, -⟩
  · exact gained_of_makeFolder hway hmake
  · exact .refl path next

theorem look_of_ensureFolder (h : t.ensureFolder folder = .ok next) :
    next.look folder = .ok .folder := by
  rcases ensureFolder_cases h with hmake | ⟨rfl, hlook⟩
  · have hgained := gained_of_makeFolder (onTheWay_placeOf folder) hmake
    obtain ⟨place, hlocate, hfind, rfl⟩ := exists_of_makeFolder hmake
    have hne : place ≠ [] := by
      rintro rfl
      simp at hfind
    apply look_of_folder (locate_of_folders (fun q hq => hgained.folders hq) hlocate)
    rw [find?_put hne, if_pos rfl]
  · exact hlook

theorem gained_makeChain (rest : List Text) (hlast : OnTheWay path (placeOf folder))
    (hrest : ∀ p ∈ rest, OnTheWay path (placeOf p)) (t : Tree) :
    Gained path t (t.makeChain folder rest).1 := by
  induction rest generalizing t with
  | nil =>
    rw [makeChain]
    split
    · exact .refl path t
    · split
      · rename_i next hmade
        exact gained_of_ensureFolder hlast hmade
      · exact .refl path t
  | cons p rest ih =>
    have hp := hrest p List.mem_cons_self
    have ih := ih fun q hq => hrest q (List.mem_cons_of_mem _ hq)
    rw [makeChain]
    split
    · exact ih t
    · split
      · rename_i next hmade
        exact (gained_of_ensureFolder hp hmade).trans (ih next)
      · split
        · exact ih t
        · exact .refl path t

theorem look_of_makeChain (rest : List Text) (hdot : lastName folder ≠ ['.']) {t : Tree}
    (h : (t.makeChain folder rest).2 = none) :
    (t.makeChain folder rest).1.look folder = .ok .folder := by
  induction rest generalizing t with
  | nil =>
    rw [makeChain, if_neg hdot] at h ⊢
    split at h
    · rename_i next hmade
      exact look_of_ensureFolder hmade
    · cases h
  | cons p rest ih =>
    rw [makeChain] at h ⊢
    split at h
    · rename_i hskip
      rw [if_pos hskip]
      exact ih h
    · rename_i hskip
      rw [if_neg hskip]
      split at h
      · exact ih h
      · split at h
        · rename_i hpresent
          rw [if_pos hpresent]
          exact ih h
        · cases h

theorem mem_foldersAround_of_mem_missingFolders {p : Text} (h : p ∈ t.missingFolders path) :
    p ∈ foldersAround path := by
  have hmem := List.takeWhile_subset _ (List.mem_reverse.mp h)
  exact List.mem_reverse.mp hmem

/-- Folders are made on the way to the last one only, also if making them fails. -/
theorem gained_makeFolders (path : Text) (t : Tree) : Gained path t (t.makeFolders path).1 := by
  have hmissing : ∀ p ∈ t.missingFolders path, OnTheWay path (placeOf p) := fun p hp =>
    onTheWay_of_mem_foldersAround (mem_foldersAround_of_mem_missingFolders hp)
  have hpath := onTheWay_placeOf path
  rw [makeFolders]
  split
  · split
    · rename_i next hmade
      exact gained_of_ensureFolder hpath hmade
    · exact .refl path t
  · rename_i first rest heq
    rw [heq] at hmissing
    have hfirst := hmissing first List.mem_cons_self
    have hrest := fun p hp => hmissing p (List.mem_cons_of_mem _ hp)
    split
    · rename_i next hmade
      exact (gained_of_ensureFolder hfirst hmade).trans (gained_makeChain rest hpath hrest next)
    · split
      · exact gained_makeChain rest hpath hrest t
      · exact .refl path t

theorem look_of_makeFolders (hdot : lastName path ≠ ['.']) (h : (t.makeFolders path).2 = none) :
    (t.makeFolders path).1.look path = .ok .folder := by
  rw [makeFolders] at h ⊢
  split at h
  · split at h
    · rename_i next hmade
      exact look_of_ensureFolder hmade
    · cases h
  · rename_i first rest hmissing
    split at h
    · exact look_of_makeChain rest hdot h
    · split at h
      · rename_i hpresent
        rw [if_pos hpresent]
        exact look_of_makeChain rest hdot h
      · cases h

end Tree

end VocabBindings.Files
