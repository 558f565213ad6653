import VocabBindings.Proofs.Package.Writing

/-!
The output folder of a package, from its preparation to the last module. With removal, no module is
left when the first one is written, so those of the package are the only ones in the end; without
it, everything that no module is written over is still there.
-/

set_option autoImplicit false

namespace VocabBindings.Module

open Files

variable {t next : Tree} {folder : Text}

/-! What is free after a removal. -/

/-- No module is left in a folder whose modules were removed. Anything else with such a name could
not have been removed. -/
theorem free_of_removeAll {removed : List Text} (ht : t.WellFormed) (hs : t.Searchable folder)
    (h : removeAll t (t.glob (modulePattern folder)) = (next, .ok removed)) {name : Text}
    (hname : IsModuleName name) : next.find? (placeOf folder ++ [name]) = none := by
  obtain ⟨rfl, hlost⟩ := lost_of_removeAll h
  rw [hlost.find?]
  cases hfind : t.find? (placeOf folder ++ [name]) with
  | none => simp
  | some node =>
    have hmem := (mem_glob_modulePattern_iff ht hs).mpr ⟨name, node, hfind, hname, rfl⟩
    rw [if_pos]
    rw [← placeOf_module hname (ht.slash_not_mem_name hfind)]
    exact List.mem_map_of_mem hmem

theorem Lost.free {places : List Place} (h : Lost places t next) {q : Place}
    (hq : t.find? q = none) : next.find? q = none := by
  rw [h.find?, hq, ite_self]

theorem free_of_removeModules {folders removed : List Text} (ht : t.WellFormed)
    (hs : ∀ f ∈ folders, t.Searchable f) (h : removeModules t folders = (next, .ok removed)) :
    (∀ q, t.find? q = none → next.find? q = none) ∧
      ∀ f ∈ folders, ∀ name, IsModuleName name → next.find? (placeOf f ++ [name]) = none := by
  induction folders generalizing t removed with
  | nil =>
    obtain ⟨rfl, -⟩ := Prod.mk.inj h
    exact ⟨fun _ => id, by simp⟩
  | cons first rest ih =>
    obtain ⟨mid, removedFirst, others, hfirst, hothers, rfl⟩ := exists_of_removeModules h
    have hlost := (lost_of_removeAll hfirst).2
    obtain ⟨hfree, hrest⟩ := ih (hlost.wellFormed ht)
      (fun f hf => hlost.searchable (hs f (List.mem_cons_of_mem _ hf))) hothers
    refine ⟨fun q hq => hfree q (hlost.free hq), fun f hf name hname => ?_⟩
    rcases List.mem_cons.mp hf with rfl | hf
    · exact hfree _ (free_of_removeAll ht (hs f List.mem_cons_self) hfirst hname)
    · exact hrest f hf name hname

/-! The prepared folder. -/

theorem IsModulePath.exists_folder {path : Text} (h : IsModulePath path) (folder : Text) :
    ∃ f ∈ [folder, traitFolderIn folder], ∃ name, IsModuleName name ∧
      placeOf (join folder path) = placeOf f ++ [name] := by
  obtain ⟨name, hname, -, ⟨-, hplace⟩ | ⟨-, hplace⟩⟩ := h.cases folder
  · exact ⟨folder, by simp, name, hname, hplace⟩
  · exact ⟨traitFolderIn folder, by simp, name, hname, hplace⟩

theorem HoldsModule.exists_path {f name : Text} (h : HoldsModule t (Files.placeOf f) name)
    (ht : t.WellFormed) (hf : f ∈ [folder, traitFolderIn folder]) :
    ∃ path, IsModulePath path ∧
      Files.placeOf (join folder path) = Files.placeOf f ++ [name] := by
  obtain ⟨hname, bytes, hfind⟩ := h
  have hslash := ht.slash_not_mem_name hfind
  simp only [List.mem_cons, List.not_mem_nil, or_false] at hf
  rcases hf with rfl | rfl
  · exact ⟨name, ⟨name, hname, hslash, .inl rfl⟩, placeOf_join hname.isPlainName hslash f⟩
  · refine ⟨_, ⟨name, hname, hslash, .inr rfl⟩, ?_⟩
    rw [join_traitFolder hslash, placeOf_join hname.isPlainName hslash]

/-- An output folder that modules can be written into. -/
structure Ready (folder : Text) (removeOld : Bool) (t next : Tree) : Prop where
  folders : HasFolders next folder
  free : removeOld = true → ∀ path, IsModulePath path →
    next.find? (placeOf (join folder path)) = none
  kept : ∀ q, (removeOld = true → ∀ path, IsModulePath path → q ≠ placeOf (join folder path)) →
    next.find? q = t.find? q ∨
      (t.find? q = none ∧ next.find? q = some .folder ∧ OnTheWay (traitFolderIn folder) q)

theorem searchable_of_makeFolders (hplain : isPattern folder = false)
    (h : (t.makeFolders (traitFolderIn folder)).2 = none) :
    ∀ f ∈ [folder, traitFolderIn folder],
      (t.makeFolders (traitFolderIn folder)).1.Searchable f := by
  have hdot := lastName_join_ne_dot isPlainName_traitFolder.1 slash_not_mem_traitFolder
    isPlainName_traitFolder.2.1 folder
  obtain ⟨hfolder, htraits⟩ := searchable_of_look hplain (Tree.look_of_makeFolders hdot h)
  simp [hfolder, htraits]

theorem exists_of_prepare_kept {removed : List Text}
    (h : (prepare t folder false).outcome = .ok removed) :
    (t.makeFolders (traitFolderIn folder)).2 = none ∧
      (prepare t folder false).files = (t.makeFolders (traitFolderIn folder)).1 := by
  unfold prepare at h ⊢
  split at h
  · cases h
  · rename_i made hmade
    rw [hmade]
    exact ⟨rfl, rfl⟩

theorem ready_of_prepare {removeOld : Bool} {removed : List Text} (ht : t.WellFormed)
    (hplain : isPattern folder = false) (h : (prepare t folder removeOld).outcome = .ok removed) :
    Ready folder removeOld t (prepare t folder removeOld).files := by
  have hgained := Tree.gained_makeFolders (traitFolderIn folder) t
  cases removeOld with
  | false =>
    obtain ⟨hmade, hfiles⟩ := exists_of_prepare_kept h
    have hsearchable := searchable_of_makeFolders hplain hmade
    rw [hfiles]
    exact ⟨fun f hf => (hsearchable f hf).walk, by simp, fun q _ => hgained.find? q⟩
  | true =>
    obtain ⟨hmade, hremoved⟩ := exists_of_prepare h
    have hsearchable := searchable_of_makeFolders hplain hmade
    have hwellFormed := hgained.wellFormed ht
    have hcleared := cleared_of_removeModules hwellFormed hsearchable
      (by simp [placeOf_traitFolderIn]) hremoved
    refine ⟨fun f hf => ?_, fun _ path hpath => ?_, fun q hq => ?_⟩
    · exact Tree.walk_of_folders (fun _ hq => hcleared.folders hq) (hsearchable f hf).walk
    · obtain ⟨f, hf, name, hname, hplace⟩ := hpath.exists_folder folder
      rw [hplace]
      exact (free_of_removeModules hwellFormed hsearchable hremoved).2 f hf name hname
    · rw [hcleared.kept]
      · exact hgained.find? q
      · intro f hf name hmodule heq
        obtain ⟨path, hpath, hplace⟩ := hmodule.exists_path hwellFormed hf
        exact hq rfl path hpath (heq.trans hplace.symm)

/-! The written folder. -/

/-- An output folder after all modules are written. -/
structure Complete (folder : Text) (removeOld : Bool) (modules : List (Text × Text))
    (t next : Tree) : Prop where
  read : ∀ file ∈ modules, next.read (join folder file.1) = .ok (Text.encode file.2)
  /-- With removal, the modules in the two folders are exactly those of the package. -/
  nothingOld : removeOld = true → ∀ path, IsModulePath path →
    ((next.find? (placeOf (join folder path))).isSome ↔ path ∈ modules.map Prod.fst)
  /-- Without removal, everything stays that no module is written over. -/
  earlier : removeOld = false → ∀ q node, t.find? q = some node →
    (∀ file ∈ modules, q ≠ placeOf (join folder file.1)) → next.find? q = some node
  /-- What is no module of the two folders stays, but folders may be new on the way to them. -/
  others : ∀ q, (∀ path, IsModulePath path → q ≠ placeOf (join folder path)) →
    next.find? q = t.find? q ∨
      (t.find? q = none ∧ next.find? q = some .folder ∧ OnTheWay (traitFolderIn folder) q)

theorem complete_of_ready {mid : Tree} {removeOld : Bool} {modules : List (Text × Text)}
    (hmodules : ∀ file ∈ modules, IsModulePath file.1) (hready : Ready folder removeOld t mid)
    (hwritten : Written folder modules mid next) : Complete folder removeOld modules t next where
  read := hwritten.read
  nothingOld hremove path hpath := by
    constructor
    · intro hsome
      by_contra hnew
      rw [hwritten.kept, hready.free hremove path hpath] at hsome
      · cases hsome
      · rintro ⟨other, content⟩ hother heq
        rw [placeOf_join_inj hpath (hmodules _ hother)] at heq
        exact hnew (heq ▸ List.mem_map_of_mem hother)
    · intro hmem
      obtain ⟨file, hfile, rfl⟩ := List.mem_map.mp hmem
      rw [(Tree.exists_of_read (hwritten.read file hfile)).2.1]
      rfl
  earlier hkeep q node hfind hother := by
    rw [hwritten.kept q hother]
    rcases hready.kept q (by simp [hkeep]) with heq | ⟨hnone, -⟩
    · rw [heq, hfind]
    · rw [hfind] at hnone
      cases hnone
  others q hq := by
    rw [hwritten.kept q fun file hfile => hq _ (hmodules file hfile)]
    exact hready.kept q fun _ => hq

end VocabBindings.Module
