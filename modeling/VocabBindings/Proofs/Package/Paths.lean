import Mathlib.Data.List.Nodup
import Mathlib.Data.List.Perm.Subperm
import VocabBindings.Proofs.Name.Identifier
import VocabBindings.Proofs.Package.Files

/-!
The paths of a package. Trait modules lie in a folder of their own, so a path is shared only by two
trait modules, by two class modules, or by a class module and the exporting one. A package has a file
for every module exactly if its classes have different module names and no requested class has the
module name of the exporting module; otherwise a later module takes the place of an earlier one.
-/

set_option autoImplicit false

namespace VocabBindings

theorem Keyed.length_ofList_eq_iff {κ α : Type} [DecidableEq κ] {pairs : List (κ × α)} :
    (Keyed.ofList pairs).length = pairs.length ↔ (pairs.map Prod.fst).Nodup := by
  have hkeys : ∀ key, key ∈ Keyed.keys (Keyed.ofList pairs) ↔ key ∈ pairs.map Prod.fst := by
    intro key
    rw [Keyed.keys_ofList, List.mem_eraseDups]
  have hnodup : (Keyed.keys (Keyed.ofList pairs)).Nodup := Keyed.nodup_keys_ofList pairs
  have hlength : (Keyed.keys (Keyed.ofList pairs)).length = (Keyed.ofList pairs).length :=
    List.length_map ..
  constructor
  · intro h
    have hperm := (List.subperm_of_subset hnodup fun key => (hkeys key).mp).perm_of_length_le
      (by simp [hlength, h])
    exact hperm.nodup_iff.mp hnodup
  · intro h
    have hle := (List.subperm_of_subset h fun key => (hkeys key).mpr).length_le
    have hge := (List.subperm_of_subset hnodup fun key => (hkeys key).mp).length_le
    rw [List.length_map] at hle hge
    omega

namespace Module

def traitExportPath : Text := traitFolder ++ "/".toList ++ exportFile

def modulePaths (r : Resolution) : List Text :=
  r.classes.map traitPath ++ r.requestedClasses.map classPath ++ [traitExportPath, exportFile]

theorem slash_not_mem_classPath (c : ClassOutline) : '/' ∉ classPath c :=
  Name.not_mem_append (fun _ => Name.isIdentifierChar_of_mem_identifier) (by decide) (by decide)

theorem slash_mem_traitPath (c : ClassOutline) : '/' ∈ traitPath c := by simp [traitPath]

theorem classPath_ne_traitPath (c d : ClassOutline) : classPath c ≠ traitPath d :=
  fun h => slash_not_mem_classPath c (h ▸ slash_mem_traitPath d)

theorem classPath_ne_traitExportPath (c : ClassOutline) : classPath c ≠ traitExportPath := by
  intro h
  have hslash : '/' ∈ traitExportPath := by decide
  exact slash_not_mem_classPath c (h ▸ hslash)

theorem traitPath_ne_exportFile (c : ClassOutline) : traitPath c ≠ exportFile := by
  intro h
  have hslash := slash_mem_traitPath c
  rw [h] at hslash
  exact absurd hslash (by decide)

theorem exportFile_eq : exportFile = "__init__".toList ++ ".py".toList := by decide

theorem traitPath_ne_traitExportPath (c : ClassOutline) : traitPath c ≠ traitExportPath := by
  intro h
  rw [traitPath, traitExportPath, exportFile_eq, ← List.append_assoc, List.append_left_inj,
    List.append_right_inj] at h
  have hlast : (c.moduleName ++ "_trait".toList).getLast? = some 't' := by
    rw [List.getLast?_append]
    rfl
  rw [show c.moduleName ++ "_trait".toList = _ from h] at hlast
  exact absurd hlast (by decide)

theorem classPath_eq_exportFile_iff {c : ClassOutline} :
    classPath c = exportFile ↔ c.moduleName = "__init__".toList := by
  rw [exportFile_eq, classPath, List.append_left_inj]

theorem path_of_mem_exportFiles {o : PackageOptions} {r : Resolution}
    {requested : List ClassOutline} {file : Text × Text} (h : file ∈ exportFiles o r requested) :
    file.1 = traitExportPath ∨ file.1 = exportFile := by
  simp only [exportFiles, List.mem_cons, List.not_mem_nil, or_false] at h
  rcases h with rfl | rfl
  · exact .inl rfl
  · exact .inr rfl

theorem nodup_traitPaths_iff {classes : List ClassOutline} :
    (classes.map traitPath).Nodup ↔ (classes.map ClassOutline.moduleName).Nodup := by
  have hmap : classes.map traitPath = (classes.map ClassOutline.moduleName).map fun name =>
      traitFolder ++ "/".toList ++ (name ++ "_trait".toList) ++ ".py".toList := by
    rw [List.map_map]
    rfl
  rw [hmap, List.nodup_map_iff]
  intro name other h
  simpa using h

theorem nodup_classPaths_iff {classes : List ClassOutline} :
    (classes.map classPath).Nodup ↔ (classes.map ClassOutline.moduleName).Nodup := by
  have hmap : classes.map classPath =
      (classes.map ClassOutline.moduleName).map fun name => name ++ ".py".toList := by
    rw [List.map_map]
    rfl
  rw [hmap, List.nodup_map_iff]
  intro name other h
  simpa using h

theorem nodup_modulePaths_iff {r : Resolution} :
    (modulePaths r).Nodup ↔
      (r.classes.map traitPath).Nodup ∧ (r.requestedClasses.map classPath).Nodup ∧
        ∀ c ∈ r.requestedClasses, classPath c ≠ exportFile := by
  have hexports : [traitExportPath, exportFile].Nodup := by decide
  rw [modulePaths, List.nodup_append, List.nodup_append]
  constructor
  · rintro ⟨⟨htraits, hclasses, -⟩, -, hexport⟩
    refine ⟨htraits, hclasses, fun c hc => hexport _ ?_ _ (by simp)⟩
    exact List.mem_append_right _ (List.mem_map_of_mem hc)
  · rintro ⟨htraits, hclasses, hexport⟩
    refine ⟨⟨htraits, hclasses, ?_⟩, hexports, ?_⟩
    · rintro path hpath other hother rfl
      obtain ⟨c, -, rfl⟩ := List.mem_map.mp hpath
      obtain ⟨d, -, hd⟩ := List.mem_map.mp hother
      exact classPath_ne_traitPath d c hd
    · intro path hpath other hother
      simp only [List.mem_cons, List.not_mem_nil, or_false] at hother
      rcases List.mem_append.mp hpath with hpath | hpath <;>
        obtain ⟨c, hc, rfl⟩ := List.mem_map.mp hpath <;> rcases hother with rfl | rfl
      · exact traitPath_ne_traitExportPath c
      · exact traitPath_ne_exportFile c
      · exact classPath_ne_traitExportPath c
      · exact hexport c hc

theorem paths_modules (o : PackageOptions) (r : Resolution) :
    (traitFiles o r ++ r.requestedClasses.map (classFile o r) ++
      exportFiles o r r.requestedClasses).map Prod.fst = modulePaths r := by
  simp only [List.map_append, traitFiles, List.map_map]
  rfl

theorem length_packageFiles_eq_iff {o : PackageOptions} {r : Resolution}
    {files : List (Text × Text)} (hclosed : r.Closed) (h : packageFiles o r = .ok files) :
    files.length = r.classes.length + r.requestedClasses.length + 2 ↔ (modulePaths r).Nodup := by
  rw [packageFiles_eq hclosed, Except.ok.injEq] at h
  subst h
  rw [← paths_modules o, ← Keyed.length_ofList_eq_iff]
  simp [traitFiles, exportFiles, Nat.add_assoc]

end Module

namespace Resolution

theorem names_filterMap_class? {r : Resolution} {names : List Text}
    (h : ∀ name ∈ names, (r.class? name).isSome) :
    (names.filterMap r.class?).map ClassOutline.name = names := by
  have hself : ∀ name ∈ names, (r.class? name).map ClassOutline.name = some name := by
    intro name hn
    obtain ⟨c, hc⟩ := Option.isSome_iff_exists.mp (h name hn)
    have hname := List.find?_some hc
    rw [hc, Option.map_some]
    simpa using hname
  rw [List.map_filterMap, List.filterMap_congr hself, List.filterMap_some]

theorem names_requestedClasses {r : Resolution} (h : r.Closed) :
    r.requestedClasses.map ClassOutline.name = r.requested := names_filterMap_class? h.requested

theorem length_requestedClasses {r : Resolution} (h : r.Closed) :
    r.requestedClasses.length = r.requested.length := by
  rw [← names_requestedClasses h, List.length_map]

theorem nodup_moduleNames_requestedClasses {r : Resolution} (h : r.Closed)
    (hrequested : r.requested.Nodup) (hclasses : (r.classes.map ClassOutline.moduleName).Nodup) :
    (r.requestedClasses.map ClassOutline.moduleName).Nodup := by
  have hnodup : r.requestedClasses.Nodup := by
    rw [← names_requestedClasses h] at hrequested
    exact hrequested.of_map _
  refine hnodup.map_on fun c hc d hd hname => ?_
  exact List.inj_on_of_nodup_map hclasses (mem_classes_of_mem_requestedClasses hc)
    (mem_classes_of_mem_requestedClasses hd) hname

end Resolution

/-- The package of a resolution has a file for every class, for every requested class and for the two
exporting modules exactly if no two of these modules have one path, which is a question of the module
names of the classes. -/
theorem length_packageFiles_iff {entries : List Entry} {schemas : List Text} {m naming : TypeNaming}
    {r : Resolution} (h : resolveClasses entries schemas m = .ok (r, naming))
    (o : Module.PackageOptions) :
    ∃ files, Module.packageFiles o r = .ok files ∧
      (files.length = r.classes.length + r.requested.length + 2 ↔
        (r.classes.map Module.traitPath).Nodup ∧ (r.requestedClasses.map Module.classPath).Nodup ∧
          ∀ c ∈ r.requestedClasses, Module.classPath c ≠ Module.exportFile) ∧
      (files.length = r.classes.length + r.requested.length + 2 ↔
        (r.classes.map ClassOutline.moduleName).Nodup ∧
          ∀ c ∈ r.requestedClasses, c.moduleName ≠ "__init__".toList) := by
  obtain ⟨index, c, -, hc, rfl⟩ := exists_of_resolveClasses_eq_ok h
  have ha := Context.answers_of_requireAll hc
  have hclosed : (c.resolution m).Closed := ha.closed_resolution
  have hrequested : (c.resolution m).requested.Nodup := by
    show c.requested.Nodup
    rw [ha.requested]
    exact Context.nodup_noted schemas
  refine ⟨_, Module.packageFiles_eq hclosed o, ?_⟩
  rw [← Resolution.length_requestedClasses hclosed,
    Module.length_packageFiles_eq_iff hclosed (Module.packageFiles_eq hclosed o),
    Module.nodup_modulePaths_iff]
  refine ⟨Iff.rfl, ?_⟩
  simp only [Module.nodup_traitPaths_iff, Module.nodup_classPaths_iff, ne_eq,
    Module.classPath_eq_exportFile_iff]
  constructor
  · rintro ⟨hclasses, -, hexport⟩
    exact ⟨hclasses, hexport⟩
  · rintro ⟨hclasses, hexport⟩
    exact ⟨hclasses, Resolution.nodup_moduleNames_requestedClasses hclosed hrequested hclasses,
      hexport⟩

def works : List Entry :=
  [Context.bareClass "CreativeWork" ["Thing"], Context.bareClass "Thing" [],
    Context.bareClass "Creative_Work" []]

theorem length_packageFiles_iff_works :
    let schemas := ["CreativeWork".toList]
    let o : Module.PackageOptions := { package := "library".toList }
    ∃ r naming files, resolveClasses works schemas {} = .ok (r, naming) ∧
      Module.packageFiles o r = .ok files ∧ files.length = 2 + 1 + 2 := by
  intro schemas o
  let c : Context :=
    { index := ⟨works⟩
      requested := schemas
      required := ["CreativeWork", "Thing"].map String.toList }
  have hi : Index.ofEntries works = .ok ⟨works⟩ := by cbv
  have hc : ({ index := ⟨works⟩ : Context }).requireAll schemas = (c, none) := by cbv
  have hr := resolveClasses_eq_ok (m := {}) hi hc
  have hnames : ((c.resolution {}).classes.map ClassOutline.moduleName).Nodup := by decide
  have hexport : ∀ d ∈ (c.resolution {}).requestedClasses, d.moduleName ≠ "__init__".toList := by
    decide
  obtain ⟨files, hfiles, -, hlength⟩ := length_packageFiles_iff hr o
  exact ⟨_, _, files, hr, hfiles, hlength.mpr ⟨hnames, hexport⟩⟩

def namesakes : List Entry := [Context.bareClass "WorksFor" [], Context.bareClass "works_for" []]

/-- A package may have fewer files than modules: both modules of one class are lost here. -/
theorem exists_length_packageFiles_lt :
    ∃ r naming files, resolveClasses namesakes (namesakes.map Entry.id) {} = .ok (r, naming) ∧
      Module.packageFiles { package := "library".toList } r = .ok files ∧
      files.length = 4 ∧ r.classes.length + r.requested.length + 2 = 6 := by
  let c : Context :=
    { index := ⟨namesakes⟩
      requested := namesakes.map Entry.id
      required := namesakes.map Entry.id }
  have hi : Index.ofEntries namesakes = .ok ⟨namesakes⟩ := by cbv
  have hc : ({ index := ⟨namesakes⟩ : Context }).requireAll (namesakes.map Entry.id) =
      (c, none) := by
    cbv
  have hclosed := (Context.answers_of_requireAll hc).closed_resolution (m := {})
  refine ⟨_, _, _, resolveClasses_eq_ok hi hc, Module.packageFiles_eq hclosed _, ?_, by decide⟩
  rw [← List.length_map (f := Prod.fst), ← Keyed.keys, Keyed.keys_ofList]
  decide

end VocabBindings
