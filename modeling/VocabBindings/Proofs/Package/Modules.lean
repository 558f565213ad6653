import VocabBindings.Proofs.Ancestry.Descent
import VocabBindings.Proofs.Name.Identifier
import VocabBindings.Proofs.Package.Paths
import VocabBindings.Proofs.Package.Preparation

/-!
Where the modules of a package lie. Every file of a package is a module directly in its folder or in
the folder of its traits, and no two files lie at one place.
-/

set_option autoImplicit false

namespace VocabBindings

open Files

theorem ClassOutline.moduleName_ne_nil {c : ClassOutline} (h : c.name ≠ []) : c.moduleName ≠ [] :=
  Name.identifier_ne_nil (Name.snakeCase_ne_nil h)

namespace Module

/-! Paths of modules. -/

def IsModulePath (path : Text) : Prop :=
  ∃ name, IsModuleName name ∧ '/' ∉ name ∧ (path = name ∨ path = traitFolder ++ '/' :: name)

theorem isModuleName_of_identifier {name : Text} (hne : name ≠ [])
    (hname : ∀ c ∈ name, Name.isIdentifierChar c) : IsModuleName (name ++ ".py".toList) := by
  obtain ⟨c, rest, rfl⟩ := List.exists_cons_of_ne_nil hne
  refine ⟨?_, List.suffix_append _ _⟩
  have hdot : c ≠ '.' := by
    rintro rfl
    exact absurd (hname '.' List.mem_cons_self) (by decide)
  simp [isHidden, hdot]

theorem isIdentifierChar_of_mem_moduleName {c : ClassOutline} {x : Char} (h : x ∈ c.moduleName) :
    Name.isIdentifierChar x := Name.isIdentifierChar_of_mem_identifier h

theorem isModulePath_classPath {c : ClassOutline} (h : c.name ≠ []) :
    IsModulePath (classPath c) :=
  ⟨_, isModuleName_of_identifier (ClassOutline.moduleName_ne_nil h) fun _ =>
      isIdentifierChar_of_mem_moduleName,
    slash_not_mem_classPath c, .inl rfl⟩

theorem isModulePath_traitPath (c : ClassOutline) : IsModulePath (traitPath c) := by
  have hname : ∀ x ∈ c.traitModuleName, Name.isIdentifierChar x := fun _ =>
    Name.isIdentifierChar_of_mem_append (by decide)
  have hne : c.traitModuleName ≠ [] := by simp [ClassOutline.traitModuleName]
  refine ⟨_, isModuleName_of_identifier hne hname,
    Name.not_mem_append hname (by decide) (by decide), .inr ?_⟩
  simp [traitPath]

theorem isModulePath_exportFile : IsModulePath exportFile :=
  ⟨exportFile, ⟨by decide, by decide⟩, by decide, .inl rfl⟩

theorem isModulePath_traitExportPath : IsModulePath traitExportPath :=
  ⟨exportFile, ⟨by decide, by decide⟩, by decide, .inr (by decide)⟩

theorem isModulePath_of_resolveClasses {entries : List Entry} {schemas : List Text}
    {m naming : TypeNaming} {r : Resolution} {o : PackageOptions} {modules : List (Text × Text)}
    (hr : resolveClasses entries schemas m = .ok (r, naming))
    (hmodules : packageFiles o r = .ok modules) :
    (∀ file ∈ modules, IsModulePath file.1) ∧ (modules.map Prod.fst).Nodup := by
  obtain ⟨index, c, -, hc, rfl⟩ := exists_of_resolveClasses_eq_ok hr
  have ha := Context.answers_of_requireAll hc
  rw [packageFiles_eq ha.closed_resolution, Except.ok.injEq] at hmodules
  subst hmodules
  refine ⟨fun file hfile => ?_, Keyed.nodup_keys_ofList _⟩
  rcases List.mem_append.mp (Keyed.mem_of_mem_ofList hfile) with hfile | hfile
  · rcases List.mem_append.mp hfile with hfile | hfile
    · obtain ⟨outline, -, rfl⟩ := List.mem_map.mp hfile
      exact isModulePath_traitPath outline
    · obtain ⟨outline, ho, rfl⟩ := List.mem_map.mp hfile
      have hmem := Resolution.mem_classes_of_mem_requestedClasses ho
      exact isModulePath_classPath (ha.name_ne_nil_of_mem_classes hmem)
  · rcases path_of_mem_exportFiles hfile with heq | heq
    · exact heq ▸ isModulePath_traitExportPath
    · exact heq ▸ isModulePath_exportFile

/-! Places of modules. -/

theorem join_traitFolder {name : Text} (hslash : '/' ∉ name) (folder : Text) :
    join folder (traitFolder ++ '/' :: name) = join (traitFolderIn folder) name := by
  have hhead : name.head? ≠ some '/' := fun h => hslash (List.mem_of_mem_head? h)
  obtain ⟨lead, hlead⟩ := exists_join_eq folder
  have htrait : traitFolderIn folder = lead ++ traitFolder := hlead _ (by decide)
  have hends : ¬ (lead ++ traitFolder = [] || (lead ++ traitFolder).getLast? = some '/') := by
    have hlast : traitFolder.getLast? = some 's' := by decide
    simp [List.getLast?_append, hlast, isPlainName_traitFolder.1]
  have hstart : (traitFolder ++ '/' :: name).head? ≠ some '/' := by
    have hfirst : traitFolder.head? = some 't' := by decide
    simp [List.head?_append, hfirst]
  rw [hlead _ hstart, htrait, join, if_neg hhead, if_neg hends, List.append_assoc]

theorem IsModulePath.cases {path : Text} (h : IsModulePath path) (folder : Text) :
    ∃ name, IsModuleName name ∧ '/' ∉ name ∧
      ((path = name ∧ placeOf (join folder path) = placeOf folder ++ [name]) ∨
        (path = traitFolder ++ '/' :: name ∧
          placeOf (join folder path) = placeOf (traitFolderIn folder) ++ [name])) := by
  obtain ⟨name, hname, hslash, rfl | rfl⟩ := h
  · exact ⟨path, hname, hslash, .inl ⟨rfl, placeOf_join hname.isPlainName hslash folder⟩⟩
  · refine ⟨name, hname, hslash, .inr ⟨rfl, ?_⟩⟩
    rw [join_traitFolder hslash, placeOf_join hname.isPlainName hslash]

theorem placeOf_join_inj {path other : Text} (hpath : IsModulePath path)
    (hother : IsModulePath other) (folder : Text) :
    placeOf (join folder path) = placeOf (join folder other) ↔ path = other := by
  refine ⟨fun h => ?_, fun h => h ▸ rfl⟩
  obtain ⟨name, -, -, hname⟩ := hpath.cases folder
  obtain ⟨last, -, -, hlast⟩ := hother.cases folder
  -- The two folders are different, so modules at one place are in one folder.
  rcases hname with ⟨rfl, hp⟩ | ⟨rfl, hp⟩ <;> rcases hlast with ⟨rfl, hl⟩ | ⟨rfl, hl⟩ <;>
    rw [hp, hl] at h <;> obtain ⟨hfolder, hnames⟩ := List.append_inj' h rfl
  · exact List.singleton_inj.mp hnames
  · simp [placeOf_traitFolderIn] at hfolder
  · simp [placeOf_traitFolderIn] at hfolder
  · rw [List.singleton_inj.mp hnames]

end Module

end VocabBindings
