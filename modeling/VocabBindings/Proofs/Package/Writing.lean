import VocabBindings.Proofs.Files.Writing
import VocabBindings.Proofs.Package.Modules

/-!
Writing a package. After the output folder is prepared it is there with the folder of its traits, so
writing a module changes its place and no other one. A module that is written is not touched by the
modules after it, which have other places.
-/

set_option autoImplicit false

namespace VocabBindings

open Files

/-! The folder of a path. -/

namespace Files

theorem namesOf_folderOf_join {name : Text} (hslash : '/' ∉ name) (folder : Text) :
    namesOf (folderOf (join folder name)) = namesOf folder := by
  have hhead : name.head? ≠ some '/' := fun h => hslash (List.mem_of_mem_head? h)
  have hname : ∀ c ∈ name.reverse, decide (c ≠ '/') = true := by
    intro c hc
    have hne : c ≠ '/' := fun heq => hslash (heq ▸ List.mem_reverse.mp hc)
    simpa using hne
  -- What stands before the last slash, the slash included.
  have hlead : ∀ lead : Text, (lead = [] ∨ lead.getLast? = some '/') →
      (((lead ++ name).reverse.dropWhile (· ≠ '/')).reverse) = lead := by
    intro lead hends
    rw [List.reverse_append, List.dropWhile_append_of_pos hname]
    rcases hends with rfl | hends
    · rfl
    · obtain ⟨before, rfl⟩ := List.getLast?_eq_some_iff.mp hends
      simp
  have hfolder : ∀ lead : Text, (lead = [] ∨ lead.getLast? = some '/') →
      namesOf (folderOf (lead ++ name)) = namesOf lead := by
    intro lead hends
    rw [folderOf, hlead lead hends]
    split
    · rfl
    · exact namesOf_withoutEndSlashes lead
  rw [join, if_neg hhead]
  split
  · rename_i hends
    exact hfolder folder (by simpa using hends)
  · have hmore := hfolder (folder ++ ['/']) (by simp)
    rw [List.append_assoc] at hmore
    rw [show folder ++ '/' :: name = folder ++ (['/'] ++ name) from rfl, hmore]
    simp [namesOf, Text.pieces_append_cons, Text.pieces]

end Files

namespace Module

variable {t next : Tree} {folder : Text}

/-! One module. -/

theorem exists_of_writeFile {path content : Text} (h : writeFile t path content = (next, none)) :
    (t.makeFolders (folderOf path)).2 = none ∧
      (t.makeFolders (folderOf path)).1.write path (Text.encode content) = .ok next := by
  unfold writeFile at h
  split at h
  · cases h
  · rename_i made hmade
    split at h
    · cases h
    · rename_i written hwritten
      obtain ⟨⟩ := h
      rw [hmade]
      exact ⟨rfl, hwritten⟩

/-- A tree with the modules of a package in a folder, and everything else as in another tree. -/
structure Written (folder : Text) (modules : List (Text × Text)) (t next : Tree) : Prop where
  read : ∀ file ∈ modules, next.read (join folder file.1) = .ok (Text.encode file.2)
  kept : ∀ q, (∀ file ∈ modules, q ≠ placeOf (join folder file.1)) → next.find? q = t.find? q
  folders : ∀ q, t.find? q = some .folder → next.find? q = some .folder

theorem written_of_writeFile {f name content : Text}
    (hwalk : t.walk [] (Text.pieces '/' f) = .ok (placeOf f)) (hslash : '/' ∉ name)
    (h : writeFile t (join f name) content = (next, none)) :
    next.read (join f name) = .ok (Text.encode content) ∧
      (∀ q, q ≠ placeOf (join f name) → next.find? q = t.find? q) ∧
      ∀ q, t.find? q = some .folder → next.find? q = some .folder := by
  obtain ⟨hmade, hwrite⟩ := exists_of_writeFile h
  have hfolder : t.walk [] (Text.pieces '/' (folderOf (join f name))) = .ok (placeOf f) := by
    rw [← Tree.walk_namesOf, namesOf_folderOf_join hslash, Tree.walk_namesOf, hwalk]
  have hsame := Tree.find?_of_gained hfolder (Tree.gained_makeFolders _ t)
  refine ⟨Tree.read_of_write hwrite, fun q hq => ?_, fun q hq => ?_⟩
  · rw [Tree.find?_of_write hwrite hq, hsame]
  · exact (Tree.altered_of_write [] hwrite).folders q (by rw [hsame, hq])

/-! All modules. -/

def HasFolders (t : Tree) (folder : Text) : Prop :=
  ∀ f ∈ [folder, traitFolderIn folder], t.walk [] (Text.pieces '/' f) = .ok (placeOf f)

theorem HasFolders.mono (h : HasFolders t folder)
    (hfolders : ∀ q, t.find? q = some .folder → next.find? q = some .folder) :
    HasFolders next folder := fun f hf => Tree.walk_of_folders hfolders (h f hf)

theorem written_of_module {path content : Text} (ht : HasFolders t folder)
    (hpath : IsModulePath path) (h : writeFile t (join folder path) content = (next, none)) :
    next.read (join folder path) = .ok (Text.encode content) ∧
      (∀ q, q ≠ placeOf (join folder path) → next.find? q = t.find? q) ∧
      ∀ q, t.find? q = some .folder → next.find? q = some .folder := by
  obtain ⟨name, -, hslash, rfl | rfl⟩ := hpath
  · exact written_of_writeFile (ht folder (by simp)) hslash h
  · rw [join_traitFolder hslash] at h ⊢
    exact written_of_writeFile (ht (traitFolderIn folder) (by simp)) hslash h

theorem exists_of_writeFiles {file : Text × Text} {rest : List (Text × Text)} {paths : List Text}
    (h : writeFiles t folder (file :: rest) = (next, .ok paths)) :
    ∃ mid others, writeFile t (join folder file.1) file.2 = (mid, none) ∧
      writeFiles mid folder rest = (next, .ok others) ∧ paths = join folder file.1 :: others := by
  rw [writeFiles] at h
  dsimp only at h
  split at h
  · cases h
  · rename_i mid hmid
    obtain ⟨hnext, hpaths⟩ := Prod.mk.inj h
    cases houtcome : (writeFiles mid folder rest).2 with
    | error e =>
      rw [houtcome] at hpaths
      cases hpaths
    | ok others =>
      rw [houtcome] at hpaths
      obtain ⟨⟩ := hpaths
      exact ⟨mid, others, hmid, Prod.ext hnext houtcome, rfl⟩

/-- Modules at different paths are all there after the last one is written. -/
theorem written_of_writeFiles {modules : List (Text × Text)} {paths : List Text}
    (ht : HasFolders t folder) (hmodules : ∀ file ∈ modules, IsModulePath file.1)
    (hdistinct : (modules.map Prod.fst).Nodup)
    (h : writeFiles t folder modules = (next, .ok paths)) :
    paths = modules.map (fun file => join folder file.1) ∧ Written folder modules t next := by
  induction modules generalizing t paths with
  | nil =>
    obtain ⟨rfl, hpaths⟩ := Prod.mk.inj h
    obtain ⟨⟩ := hpaths
    exact ⟨rfl, by simp, fun _ _ => rfl, fun _ => id⟩
  | cons file rest ih =>
    obtain ⟨mid, others, hfile, hrest, rfl⟩ := exists_of_writeFiles h
    obtain ⟨hnew, hdistinct⟩ := List.nodup_cons.mp hdistinct
    have hpath := hmodules file List.mem_cons_self
    have hpaths := fun other hother => hmodules other (List.mem_cons_of_mem file hother)
    obtain ⟨hread, hkept, hfolders⟩ := written_of_module ht hpath hfile
    obtain ⟨rfl, hwritten⟩ := ih (ht.mono hfolders) hpaths hdistinct hrest
    have hplace : ∀ other ∈ rest, placeOf (join folder file.1) ≠ placeOf (join folder other.1) := by
      intro other hother heq
      rw [placeOf_join_inj hpath (hpaths other hother)] at heq
      exact hnew (heq ▸ List.mem_map_of_mem hother)
    refine ⟨rfl, fun other hother => ?_, fun q hq => ?_, fun q hq => ?_⟩
    · rcases List.mem_cons.mp hother with rfl | hother
      · -- The first module is still there after the others.
        obtain ⟨hlocate, hfind, hslash⟩ := Tree.exists_of_read hread
        refine Tree.read_of_locate (Tree.locate_of_folders hwritten.folders hlocate) ?_ hslash
        rw [hwritten.kept _ hplace, hfind]
      · exact hwritten.read other hother
    · rw [hwritten.kept q fun other hother => hq other (List.mem_cons_of_mem _ hother),
        hkept q (hq file List.mem_cons_self)]
    · exact hwritten.folders q (hfolders q hq)

end Module

end VocabBindings
