import VocabBindings.Proofs.Ancestry.Lineage
import VocabBindings.Proofs.Module.Import
import VocabBindings.Proofs.Package.Modules
import VocabBindings.Proofs.Package.Restriction
import VocabBindings.Proofs.Vocabulary.Acceptance

/-!
Imports between the modules of a package. Every imported module has a file with the class that is
imported, but a module is not always imported from that file: a requested class whose module is named
like the folder of the traits is looked for in that folder.
-/

set_option autoImplicit false

namespace VocabBindings

namespace Module

/-- The path of the file that a module below a folder is imported from. A folder with an exporting
module goes before a module of the same name, and only such folders are entered. -/
def locate (files : List (Text × Text)) (folder : Text) : List Text → Option Text
  | [] => none
  | [name] =>
    if folder ++ name ++ '/' :: exportFile ∈ Keyed.keys files then
      some (folder ++ name ++ '/' :: exportFile)
    else if folder ++ name ++ ".py".toList ∈ Keyed.keys files then
      some (folder ++ name ++ ".py".toList)
    else none
  | name :: rest =>
    if folder ++ name ++ '/' :: exportFile ∈ Keyed.keys files then
      locate files (folder ++ name ++ ['/']) rest
    else none

def Import.Resolves (files : List (Text × Text)) (i : Import) : Prop :=
  ∃ path content, locate files [] i.path = some path ∧ (path, content) ∈ files ∧
    Declares content i.name

/-! Where modules are found. -/

theorem IsModulePath.of_slash {folder rest : Text} (h : IsModulePath (folder ++ '/' :: rest)) :
    folder = traitFolder ∧ '/' ∉ rest := by
  obtain ⟨name, -, hslash, heq | heq⟩ := h
  · exact absurd (heq ▸ by simp) hslash
  · have hfolder : '/' ∉ traitFolder := by decide
    obtain ⟨rfl, -, rfl⟩ := (List.append_cons_inj_of_notMem hfolder hslash).mp heq.symm
    exact ⟨rfl, hslash⟩

section

variable {files : List (Text × Text)} (hpaths : ∀ path ∈ Keyed.keys files, IsModulePath path)
  (hexport : traitExportPath ∈ Keyed.keys files)

include hpaths hexport

theorem locate_module {name : Text} (hfile : name ++ ".py".toList ∈ Keyed.keys files) :
    locate files [] [name] =
      some (if name = traitFolder then traitExportPath else name ++ ".py".toList) := by
  rw [locate, List.nil_append]
  split
  · rename_i hfolder
    obtain ⟨rfl, -⟩ := (hpaths _ hfolder).of_slash
    rw [if_pos rfl]
    rfl
  · rename_i hfolder
    have hname : name ≠ traitFolder := fun heq => hfolder (heq ▸ hexport)
    rw [if_neg hname]

theorem locate_traitModule {name : Text}
    (hfile : traitFolder ++ "/".toList ++ name ++ ".py".toList ∈ Keyed.keys files) :
    locate files [] [traitFolder, name] =
      some (traitFolder ++ "/".toList ++ name ++ ".py".toList) := by
  -- No module lies deeper than in the folder of the traits.
  have hfolder : traitFolder ++ ['/'] ++ name ++ '/' :: exportFile ∉ Keyed.keys files := by
    intro hm
    have hpath := hpaths _ hm
    rw [List.append_assoc, List.append_assoc] at hpath
    exact hpath.of_slash.2 (by simp)
  have htraits : [] ++ traitFolder ++ '/' :: exportFile ∈ Keyed.keys files := hexport
  rw [locate, if_pos htraits, List.nil_append, locate, if_neg hfolder]
  · exact if_pos hfile
  · simp

end

/-- A class that derives from its own trait and from one trait for each of its ancestors: these are
what its module imports, and all of them are found. -/
structure Composed (index : Index) (o : PackageOptions) (files : List (Text × Text))
    (c : ClassOutline) (ancestors : List ClassOutline) : Prop where
  mem : (classPath c, composedModule o ((c :: ancestors).map Import.ofTrait) c) ∈ files
  nodup : ((c :: ancestors).map ClassOutline.name).Nodup
  mem_iff : ∀ name, name ∈ ancestors.map ClassOutline.name ↔
    name ≠ c.name ∧ index.Descends c.name name
  resolves : ∀ i ∈ (c :: ancestors).map Import.ofTrait, i.Resolves files

theorem mem_packageFiles_of_mem_exportFiles {o : PackageOptions} {r : Resolution}
    {file : Text × Text} (hexport : ∀ c ∈ r.requestedClasses, classPath c ≠ exportFile)
    (hm : file ∈ exportFiles o r r.requestedClasses) :
    file ∈ Keyed.ofList (traitFiles o r ++ r.requestedClasses.map (classFile o r) ++
      exportFiles o r r.requestedClasses) := by
  refine Keyed.mem_ofList (List.mem_append_right _ hm) fun other ho => ?_
  rcases List.mem_append.mp ho with ho | ho
  · rcases List.mem_append.mp ho with ho | ho <;> obtain ⟨c, hc, heq⟩ := List.mem_map.mp ho <;>
      obtain ⟨hpath, -⟩ := Prod.mk.inj heq <;> rcases path_of_mem_exportFiles hm with h | h
    · exact absurd (hpath.trans h) (traitPath_ne_traitExportPath c)
    · exact absurd (hpath.trans h) (traitPath_ne_exportFile c)
    · exact absurd (hpath.trans h) (classPath_ne_traitExportPath c)
    · exact absurd (hpath.trans h) (hexport c hc)
  · have hnodup : ((exportFiles o r r.requestedClasses).map Prod.fst).Nodup := by
      show [traitExportPath, exportFile].Nodup
      decide
    exact congrArg Prod.snd (List.inj_on_of_nodup_map hnodup ho hm rfl)

structure Intact (o : PackageOptions) (r : Resolution) (files : List (Text × Text)) : Prop where
  paths : ∀ path ∈ Keyed.keys files, IsModulePath path
  traits : ∀ c ∈ r.classes, (traitPath c, traitModule o.seeUrl c) ∈ files
  classes : ∀ c ∈ r.requestedClasses, classFile o r c ∈ files
  exports : ∀ file ∈ exportFiles o r r.requestedClasses, file ∈ files

namespace Intact

variable {o : PackageOptions} {r : Resolution} {files : List (Text × Text)} {c : ClassOutline}

theorem traitExport (h : Intact o r files) :
    (traitExportPath, exportingModule "Traits of all generated classes.".toList o
      (r.classes.map Import.ofTrait)) ∈ files := by
  rw [← exportModule_ofTrait]
  exact h.exports _ List.mem_cons_self

theorem classExport (h : Intact o r files) :
    (exportFile, exportingModule "Generated classes.".toList o
      (r.requestedClasses.map Import.ofClass)) ∈ files := by
  rw [← exportModule_ofClass]
  exact h.exports _ (List.mem_cons_of_mem _ List.mem_cons_self)

theorem resolves_ofTrait (h : Intact o r files) (hc : c ∈ r.classes) :
    (Import.ofTrait c).Resolves files := by
  have hfile := h.traits c hc
  have hkey : traitPath c ∈ Keyed.keys files := List.mem_map_of_mem hfile
  exact ⟨traitPath c, _, locate_traitModule h.paths (List.mem_map_of_mem h.traitExport) hkey, hfile,
    declares_traitModule o.seeUrl c⟩

theorem declares_class (h : Intact o r files) (hc : c ∈ r.requestedClasses) :
    ∃ content, (classPath c, content) ∈ files ∧ Declares content c.className := by
  refine ⟨_, h.classes c hc, ?_⟩
  rw [classModule_eq]
  exact declares_composedModule ..

theorem locate_ofClass (h : Intact o r files) (hc : c ∈ r.requestedClasses) :
    locate files [] (Import.ofClass c).path =
      some (if c.moduleName = traitFolder then traitExportPath else classPath c) := by
  have hkey : classPath c ∈ Keyed.keys files := List.mem_map_of_mem (h.classes c hc)
  exact locate_module h.paths (List.mem_map_of_mem h.traitExport) hkey

theorem resolves_ofClass (h : Intact o r files) (hc : c ∈ r.requestedClasses)
    (hname : c.moduleName ≠ traitFolder) : (Import.ofClass c).Resolves files := by
  obtain ⟨content, hfile, hdeclares⟩ := h.declares_class hc
  refine ⟨classPath c, content, ?_, hfile, hdeclares⟩
  rw [h.locate_ofClass hc, if_neg hname]

theorem resolves_ofClass_iff (h : Intact o r files) (hnodup : (files.map Prod.fst).Nodup)
    (hpackage : '\n' ∉ o.package) (hc : c ∈ r.requestedClasses) :
    (Import.ofClass c).Resolves files ↔ c.moduleName ≠ traitFolder := by
  refine ⟨?_, h.resolves_ofClass hc⟩
  rintro ⟨path, content, hlocate, hfile, hdeclares⟩ hname
  rw [h.locate_ofClass hc, if_pos hname] at hlocate
  obtain rfl := Option.some.inj hlocate
  have hsame := List.inj_on_of_nodup_map hnodup hfile h.traitExport rfl
  obtain rfl := congrArg Prod.snd hsame
  exact (noClassLine_exportingModule hpackage r.classes).not_declares hdeclares

end Intact

theorem intact_packageFiles {o : PackageOptions} {r : Resolution} {files : List (Text × Text)}
    (hclosed : r.Closed) (hmodules : packageFiles o r = .ok files)
    (hpaths : ∀ file ∈ files, IsModulePath file.1) (htraits : (r.classes.map traitPath).Nodup)
    (hclasses : (r.requestedClasses.map classPath).Nodup)
    (hexport : ∀ c ∈ r.requestedClasses, classPath c ≠ exportFile) : Intact o r files := by
  rw [packageFiles_eq hclosed, Except.ok.injEq] at hmodules
  subst hmodules
  refine ⟨List.forall_mem_map.mpr hpaths, fun c hc => ?_, fun c hc => ?_, fun file hfile => ?_⟩
  · exact mem_packageFiles htraits hclasses (traitPath_ne_traitExportPath c)
      (traitPath_ne_exportFile c) (.inl (List.mem_map_of_mem hc))
  · exact mem_packageFiles htraits hclasses (classPath_ne_traitExportPath c) (hexport c hc)
      (.inr (List.mem_map_of_mem hc))
  · exact mem_packageFiles_of_mem_exportFiles hexport hfile

end Module

namespace Context

open VocabBindings.Module

variable {index : Index} {names : List Text} {c : Context} {m : TypeNaming} {outline : ClassOutline}

theorem Answers.exists_ancestors (h : Answers index names c)
    (ho : outline ∈ (c.resolution m).classes) :
    ∃ ancestors, outline.traits.filterMap (c.resolution m).class? = outline :: ancestors ∧
      (outline :: ancestors).map ClassOutline.name = index.lineage outline.name := by
  have hclosed := h.closed_resolution.traits outline ho
  obtain ⟨name, hname, houtline⟩ := mem_classes_resolution.mp ho
  obtain rfl := Index.name_of_outline? houtline
  have htraits : outline.traits = index.lineage outline.name := by
    rw [Index.traits_of_outline? houtline, h.index_eq]
  have hself : (c.resolution m).class? outline.name = some outline := by
    rw [class?_resolution, if_pos hname, houtline]
  have hcons : index.lineage outline.name = _ :=
    Index.lineage_eq_cons (h.name_ne_nil_of_mem_classes ho)
  have hlineage := Resolution.names_filterMap_class? hclosed
  rw [htraits, hcons, List.filterMap_cons_some hself] at hlineage
  exact ⟨_, by rw [htraits, hcons, List.filterMap_cons_some hself], hlineage.trans hcons.symm⟩

theorem Answers.exists_composed (h : Answers index names c) {o : PackageOptions}
    {files : List (Text × Text)} (hfiles : Intact o (c.resolution m) files)
    (ho : outline ∈ (c.resolution m).requestedClasses) :
    ∃ ancestors, Composed index o files outline ancestors := by
  have hmem := Resolution.mem_classes_of_mem_requestedClasses ho
  obtain ⟨ancestors, htraits, hlineage⟩ := h.exists_ancestors hmem
  have hnodup : ((outline :: ancestors).map ClassOutline.name).Nodup :=
    hlineage ▸ index.nodup_lineage outline.name
  refine ⟨ancestors, ?_, hnodup, fun name => ?_, ?_⟩
  · have hfile := hfiles.classes outline ho
    rwa [classFile, classModule_eq, htraits] at hfile
  · have hdescends : name ∈ (outline :: ancestors).map ClassOutline.name ↔
        index.Descends outline.name name := by
      rw [hlineage, Index.mem_lineage_iff]
      exact and_iff_right_of_imp (Index.ne_nil_of_descends (h.name_ne_nil_of_mem_classes hmem))
    rw [← hdescends, List.map_cons, List.mem_cons]
    refine ⟨fun hn => ⟨?_, .inr hn⟩, fun hn => hn.2.resolve_left hn.1⟩
    rintro rfl
    exact (List.nodup_cons.mp hnodup).1 hn
  · refine List.forall_mem_map.mpr fun t ht => hfiles.resolves_ofTrait ?_
    rw [← htraits] at ht
    obtain ⟨name, -, hname⟩ := List.mem_filterMap.mp ht
    exact Resolution.mem_classes_of_class? hname

end Context

open VocabBindings.Module

/-- What the modules of a package import from each other, if no two of them have one path. The module
of a requested class imports its own trait and one for each of its ancestors, and derives from these.
Every import of a trait is found, and so is every import of a class but one: where the module of a
class is named like the folder of the traits, its import leads into that folder. -/
theorem imports_of_resolveClasses {entries : List Entry} {schemas : List Text}
    {m naming : TypeNaming} {r : Resolution}
    (h : resolveClasses entries schemas m = .ok (r, naming))
    (hmodules : (r.classes.map ClassOutline.traitModuleName).Nodup)
    (hexport : ∀ c ∈ r.requestedClasses, c.moduleName ≠ "__init__".toList) (o : PackageOptions) :
    ∃ files, packageFiles o r = .ok files ∧ (files.map Prod.fst).Nodup ∧
      (∀ c ∈ r.requestedClasses, ∃ ancestors, Composed ⟨entries⟩ o files c ancestors) ∧
      ((traitExportPath, exportingModule "Traits of all generated classes.".toList o
        (r.classes.map Import.ofTrait)) ∈ files ∧
        ∀ c ∈ r.classes, (Import.ofTrait c).Resolves files) ∧
      (exportFile, exportingModule "Generated classes.".toList o
        (r.requestedClasses.map Import.ofClass)) ∈ files ∧
      ∀ c ∈ r.requestedClasses,
        (∃ content, (classPath c, content) ∈ files ∧ Declares content c.className) ∧
        locate files [] (Import.ofClass c).path =
          some (if c.moduleName = traitFolder then traitExportPath else classPath c) ∧
        (c.moduleName ≠ traitFolder → (Import.ofClass c).Resolves files) ∧
        ('\n' ∉ o.package →
          ((Import.ofClass c).Resolves files ↔ c.moduleName ≠ traitFolder)) := by
  obtain ⟨index, c, hi, hc, rfl⟩ := exists_of_resolveClasses_eq_ok h
  obtain ⟨rfl, -⟩ := Index.ofEntries_eq_ok_iff.mp hi
  have ha := Context.answers_of_requireAll hc
  have hclosed : (c.resolution m).Closed := ha.closed_resolution
  have hclasses : ((c.resolution m).classes.map ClassOutline.moduleName).Nodup := by
    refine List.Nodup.of_map (· ++ "_trait".toList) ?_
    rw [List.map_map]
    exact hmodules
  have hrequested : ((c.resolution m).requestedClasses.map ClassOutline.moduleName).Nodup := by
    refine Resolution.nodup_moduleNames_requestedClasses hclosed ?_ hclasses
    show c.requested.Nodup
    rw [ha.requested]
    exact Context.nodup_noted schemas
  have hfiles := packageFiles_eq hclosed o
  obtain ⟨hpaths, hnodup⟩ := isModulePath_of_resolveClasses h hfiles
  have hintact := intact_packageFiles hclosed hfiles hpaths (nodup_traitPaths_iff.mpr hclasses)
    (nodup_classPaths_iff.mpr hrequested) fun d hd heq =>
      hexport d hd (classPath_eq_exportFile_iff.mp heq)
  refine ⟨_, hfiles, hnodup, fun d => ha.exists_composed hintact,
    ⟨hintact.traitExport, fun d => hintact.resolves_ofTrait⟩, hintact.classExport, fun d hd => ?_⟩
  exact ⟨hintact.declares_class hd, hintact.locate_ofClass hd, hintact.resolves_ofClass hd,
    fun hpackage => hintact.resolves_ofClass_iff hnodup hpackage hd⟩

theorem imports_of_resolveClasses_works :
    let o : PackageOptions := { package := "library".toList }
    ∃ r naming files c ancestors,
      resolveClasses works ["CreativeWork".toList] {} = .ok (r, naming) ∧
      packageFiles o r = .ok files ∧ c ∈ r.requestedClasses ∧
      Composed ⟨works⟩ o files c ancestors ∧ (Import.ofClass c).Resolves files ∧
      (Import.ofClass c).line o.package =
        "from library.creative_work import CreativeWork\n".toList ∧
      (Import.ofTrait c).line o.package =
        "from library.traits.creative_work_trait import CreativeWorkTrait\n".toList := by
  intro o
  let c : Context :=
    { index := ⟨works⟩
      requested := ["CreativeWork".toList]
      required := ["CreativeWork", "Thing"].map String.toList }
  have hi : Index.ofEntries works = .ok ⟨works⟩ := by cbv
  have hc : ({ index := ⟨works⟩ : Context }).requireAll ["CreativeWork".toList] = (c, none) := by
    cbv
  have hr := resolveClasses_eq_ok (m := {}) hi hc
  have hmodules : ((c.resolution {}).classes.map ClassOutline.traitModuleName).Nodup := by decide
  have hexport : ∀ d ∈ (c.resolution {}).requestedClasses, d.moduleName ≠ "__init__".toList := by
    decide
  obtain ⟨files, hfiles, -, hcomposed, -, -, hclasses⟩ :=
    imports_of_resolveClasses hr hmodules hexport o
  have hnames : (c.resolution {}).requestedClasses.map ClassOutline.name =
      ["CreativeWork".toList] := by
    decide
  obtain ⟨d, hd, hname⟩ := List.map_eq_singleton_iff.mp hnames
  have hmem : d ∈ (c.resolution {}).requestedClasses := hd ▸ List.mem_cons_self
  obtain ⟨ancestors, hancestors⟩ := hcomposed d hmem
  obtain ⟨-, -, hresolves, -⟩ := hclasses d hmem
  refine ⟨_, _, files, d, ancestors, hr, hfiles, hmem, hancestors, hresolves ?_, ?_, ?_⟩
  · rw [ClassOutline.moduleName, hname]
    decide
  · rw [Import.line_ofClass, ClassOutline.moduleName, ClassOutline.className, hname]
    decide
  · rw [Import.line_ofTrait, ClassOutline.traitModuleName, ClassOutline.traitName,
      ClassOutline.moduleName, ClassOutline.className, hname]
    decide

def traitsClass : List Entry := [Context.bareClass "Traits" []]

/-- The import of a class may lead to a file that does not have the class, although the package has a
file with it. -/
theorem exists_not_resolves :
    let o : PackageOptions := { package := "lib".toList }
    ∃ r naming files, resolveClasses traitsClass ["Traits".toList] {} = .ok (r, naming) ∧
      packageFiles o r = .ok files ∧ (r.classes.map ClassOutline.traitModuleName).Nodup ∧
      (r.requestedClasses.map ClassOutline.moduleName).Nodup ∧
      (∀ c ∈ r.requestedClasses, c.moduleName ≠ "__init__".toList) ∧
      (exportFile, exportingModule "Generated classes.".toList o
        (r.requestedClasses.map Import.ofClass)) ∈ files ∧
      ∃ c ∈ r.requestedClasses,
        (Import.ofClass c).line o.package = "from lib.traits import Traits\n".toList ∧
        locate files [] (Import.ofClass c).path = some "traits/__init__.py".toList ∧
        ¬ (Import.ofClass c).Resolves files := by
  intro o
  let c : Context :=
    { index := ⟨traitsClass⟩
      requested := ["Traits".toList]
      required := ["Traits".toList] }
  have hi : Index.ofEntries traitsClass = .ok ⟨traitsClass⟩ := by cbv
  have hc : ({ index := ⟨traitsClass⟩ : Context }).requireAll ["Traits".toList] = (c, none) := by
    cbv
  have hr := resolveClasses_eq_ok (m := {}) hi hc
  have hclosed := (Context.answers_of_requireAll hc).closed_resolution (m := {})
  have hfiles := packageFiles_eq hclosed o
  obtain ⟨hpaths, hnodup⟩ := isModulePath_of_resolveClasses hr hfiles
  have hintact := intact_packageFiles hclosed hfiles hpaths (by decide) (by decide) (by decide)
  have hnames : (c.resolution {}).requestedClasses.map ClassOutline.name = ["Traits".toList] := by
    decide
  obtain ⟨d, hd, hname⟩ := List.map_eq_singleton_iff.mp hnames
  have hmem : d ∈ (c.resolution {}).requestedClasses := hd ▸ List.mem_cons_self
  have hmodule : d.moduleName = traitFolder := by
    rw [ClassOutline.moduleName, hname]
    decide
  have hlocate := hintact.locate_ofClass hmem
  rw [if_pos hmodule] at hlocate
  refine ⟨_, _, _, hr, hfiles, by decide, by decide, by decide, hintact.classExport, d, hmem, ?_,
    hlocate, ?_⟩
  · rw [Import.line_ofClass, hmodule, ClassOutline.className, hname]
    decide
  · rw [hintact.resolves_ofClass_iff hnodup (by decide) hmem]
    exact not_not.mpr hmodule

end VocabBindings
