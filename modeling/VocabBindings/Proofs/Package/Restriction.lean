import VocabBindings.Proofs.Package.Paths

/-!
Fewer requests. What a resolution says about a class does not depend on what else was requested, so
a resolution for some of the names is a part of the resolution for all of them. Its modules are
modules of the larger package, with the same text, where no two modules of that package share a path.
-/

set_option autoImplicit false

namespace VocabBindings

namespace Context

variable {index : Index} {few many : List Text} {small large : Context} {m : TypeNaming}

theorem exists_requireAll_of_subset (hsub : ∀ name ∈ few, name ≠ [] → name ∈ many)
    (h : ({ index : Context }).requireAll many = (large, none)) :
    ∃ small, ({ index : Context }).requireAll few = (small, none) := by
  have hlarge := requireAll_eq_none_iff.mp (congrArg Prod.snd h)
  have hsmall : (({ index : Context }).requireAll few).2 = none := by
    refine requireAll_eq_none_iff.mpr fun name hn x hx hr => ?_
    by_cases hname : name = []
    · subst hname
      exact absurd (Index.eq_nil_of_descends_nil hr) hx
    · exact hlarge name (hsub name hn hname) x hx hr
  exact ⟨_, Prod.ext rfl hsmall⟩

/-- Two contexts of which the first was asked for fewer names. -/
structure Within (small large : Context) : Prop where
  index : small.index = large.index
  requested : small.requested ⊆ large.requested
  required : small.required ⊆ large.required

theorem within_of_subset (hsub : ∀ name ∈ few, name ≠ [] → name ∈ many)
    (hsmall : Answers index few small) (hlarge : Answers index many large) :
    small.Within large := by
  constructor
  · rw [hsmall.index_eq, hlarge.index_eq]
  · intro name hn
    rw [hsmall.requested, mem_noted] at hn
    rw [hlarge.requested, mem_noted]
    exact ⟨hsub name hn.1 hn.2, hn.2⟩
  · rw [hsmall.required, hlarge.required]
    exact Index.discovered_subset hsub

namespace Within

theorem classes_subset (h : small.Within large) :
    (small.resolution m).classes ⊆ (large.resolution m).classes := by
  intro outline ho
  obtain ⟨name, hn, ho⟩ := mem_classes_resolution.mp ho
  exact mem_classes_resolution.mpr ⟨name, h.required hn, h.index ▸ ho⟩

theorem suggestions_subset (h : small.Within large) :
    (small.resolution m).suggestions ⊆ (large.resolution m).suggestions := by
  intro type ht
  rw [mem_suggestions_resolution] at ht ⊢
  refine ht.imp_left (And.imp_left fun hg => ?_)
  obtain ⟨e, he, hr, owner, hd, ho⟩ := mem_gatheredTypes.mp hg
  exact mem_gatheredTypes.mpr ⟨e, h.index ▸ he, hr, owner, hd, h.required ho⟩

theorem class?_eq (h : small.Within large) {name : Text} (hn : name ∈ small.required) :
    (small.resolution m).class? name = (large.resolution m).class? name := by
  rw [class?_resolution, class?_resolution, if_pos hn, if_pos (h.required hn), h.index]

theorem requestedClasses_subset (h : small.Within large)
    (hrequired : ∀ name ∈ small.requested, name ∈ small.required) :
    (small.resolution m).requestedClasses ⊆ (large.resolution m).requestedClasses := by
  intro outline ho
  obtain ⟨name, hn, ho⟩ := List.mem_filterMap.mp ho
  rw [h.class?_eq (hrequired name hn)] at ho
  exact List.mem_filterMap.mpr ⟨name, h.requested hn, ho⟩

theorem classFile_eq (h : small.Within large) (o : Module.PackageOptions) {outline : ClassOutline}
    (htraits : ∀ name ∈ outline.traits, name ∈ small.required) :
    Module.classFile o (small.resolution m) outline =
      Module.classFile o (large.resolution m) outline := by
  unfold Module.classFile
  rw [List.filterMap_congr fun name hn => h.class?_eq (htraits name hn)]

end Within

end Context

namespace Module

/-- A trait or class module that is written at a path is what the package holds there, if no two
trait modules and no two class modules have one path. -/
theorem mem_packageFiles {o : PackageOptions} {r : Resolution} {file : Text × Text}
    (htraits : (r.classes.map traitPath).Nodup)
    (hclasses : (r.requestedClasses.map classPath).Nodup)
    (htraitExport : file.1 ≠ traitExportPath) (hexport : file.1 ≠ exportFile)
    (hm : file ∈ traitFiles o r ∨ file ∈ r.requestedClasses.map (classFile o r)) :
    file ∈ Keyed.ofList (traitFiles o r ++ r.requestedClasses.map (classFile o r) ++
      exportFiles o r r.requestedClasses) := by
  refine Keyed.mem_ofList (List.mem_append_left _ (List.mem_append.mpr hm)) fun other ho => ?_
  rcases List.mem_append.mp ho with ho | ho
  · -- Both modules come from classes. They are of one sort, and there their paths tell them apart.
    rcases hm with hm | hm <;> obtain ⟨c, hc, rfl⟩ := List.mem_map.mp hm <;>
      rcases List.mem_append.mp ho with ho | ho <;>
      obtain ⟨d, hd, heq⟩ := List.mem_map.mp ho <;>
      obtain ⟨hpath, rfl⟩ := Prod.mk.inj heq
    · rw [List.inj_on_of_nodup_map htraits hd hc hpath]
    · exact absurd hpath (classPath_ne_traitPath d c)
    · exact absurd hpath.symm (classPath_ne_traitPath c d)
    · rw [List.inj_on_of_nodup_map hclasses hd hc hpath]
      rfl
  · rcases path_of_mem_exportFiles ho with h | h
    · exact absurd h htraitExport
    · exact absurd h hexport

end Module

/-- A resolution for some of the requested names is a part of the resolution for all of them: the
same outlines, and suggestions that were made there too. Its modules but the exporting ones are
modules of the larger package if no two modules of one sort have the same path there. -/
theorem resolveClasses_of_subset {entries : List Entry} {few many : List Text} {m naming : TypeNaming}
    {large : Resolution} (hsub : ∀ name ∈ few, name ≠ [] → name ∈ many)
    (hmany : resolveClasses entries many m = .ok (large, naming)) (o : Module.PackageOptions) :
    ∃ small smallNaming, resolveClasses entries few m = .ok (small, smallNaming) ∧
      small.classes ⊆ large.classes ∧ small.suggestions ⊆ large.suggestions ∧
      ∃ smallFiles largeFiles, Module.packageFiles o small = .ok smallFiles ∧
        Module.packageFiles o large = .ok largeFiles ∧
        ((large.classes.map Module.traitPath).Nodup →
          (large.requestedClasses.map Module.classPath).Nodup →
          ∀ file ∈ smallFiles, file.1 ≠ Module.traitExportPath → file.1 ≠ Module.exportFile →
            file ∈ largeFiles) := by
  obtain ⟨index, cLarge, hi, hlarge, rfl⟩ := exists_of_resolveClasses_eq_ok hmany
  obtain ⟨cSmall, hsmall⟩ := Context.exists_requireAll_of_subset hsub hlarge
  have ha := Context.answers_of_requireAll hsmall
  have hb := Context.answers_of_requireAll hlarge
  have hwithin := Context.within_of_subset hsub ha hb
  refine ⟨cSmall.resolution m, _, resolveClasses_eq_ok hi hsmall, hwithin.classes_subset,
    hwithin.suggestions_subset, _, _,
    Module.packageFiles_eq ha.closed_resolution o, Module.packageFiles_eq hb.closed_resolution o, ?_⟩
  intro htraits hclasses file hfile htraitExport hexport
  apply Module.mem_packageFiles htraits hclasses htraitExport hexport
  rcases List.mem_append.mp (Keyed.mem_of_mem_ofList hfile) with hfile | hfile
  · rcases List.mem_append.mp hfile with hfile | hfile
    · obtain ⟨outline, ho, rfl⟩ := List.mem_map.mp hfile
      exact .inl (List.mem_map.mpr ⟨outline, hwithin.classes_subset ho, rfl⟩)
    · obtain ⟨outline, ho, rfl⟩ := List.mem_map.mp hfile
      have hrequested := hwithin.requestedClasses_subset
        (fun name hn => ha.required_of_requested hn) ho
      refine .inr (List.mem_map.mpr ⟨outline, hrequested, (hwithin.classFile_eq o ?_).symm⟩)
      exact fun name hn => ha.required_of_mem_traits
        (Resolution.mem_classes_of_mem_requestedClasses ho) hn
  · rcases Module.path_of_mem_exportFiles hfile with h | h
    · exact absurd h htraitExport
    · exact absurd h hexport

def siblings : List Entry :=
  [Context.bareClass "Book" ["Work", ""], Context.bareClass "Work" ["Book"],
    Context.bareClass "Person" [],
    { id := "author".toList
      kind := .property
      domains := ["Work".toList, "Person".toList]
      ranges := ["Person".toList, "Text".toList] }]

theorem resolveClasses_of_subset_siblings :
    let few := ["", "Work"].map String.toList
    let many := ["Person", "Book", "Work"].map String.toList
    let o : Module.PackageOptions := { package := "library".toList }
    (∀ name ∈ few, name ≠ [] → name ∈ many) ∧
      ∃ large naming small smallNaming smallFiles largeFiles,
        resolveClasses siblings many {} = .ok (large, naming) ∧
        resolveClasses siblings few {} = .ok (small, smallNaming) ∧
        small.classes ⊆ large.classes ∧ small.suggestions ⊆ large.suggestions ∧
        Module.packageFiles o small = .ok smallFiles ∧
        Module.packageFiles o large = .ok largeFiles ∧
        ∀ file ∈ smallFiles, file.1 ≠ Module.traitExportPath → file.1 ≠ Module.exportFile →
          file ∈ largeFiles := by
  intro few many o
  let c : Context :=
    { index := ⟨siblings⟩
      requested := ["Person", "Book", "Work"].map String.toList
      required := ["Person", "Book", "Work"].map String.toList }
  have hsub : ∀ name ∈ few, name ≠ [] → name ∈ many := by decide
  have hi : Index.ofEntries siblings = .ok ⟨siblings⟩ := by cbv
  have hc : ({ index := ⟨siblings⟩ : Context }).requireAll many = (c, none) := by cbv
  have htraits : ((c.resolution {}).classes.map Module.traitPath).Nodup := by decide
  have hclasses : ((c.resolution {}).requestedClasses.map Module.classPath).Nodup := by decide
  have hmany := resolveClasses_eq_ok (m := {}) hi hc
  obtain ⟨small, smallNaming, hfew, hsmall, hsuggest, smallFiles, largeFiles, hfs, hfl, hfiles⟩ :=
    resolveClasses_of_subset hsub hmany o
  exact ⟨hsub, _, _, small, smallNaming, smallFiles, largeFiles, hmany, hfew, hsmall, hsuggest, hfs,
    hfl, hfiles htraits hclasses⟩

end VocabBindings
