import VocabBindings.Module.Output
import VocabBindings.Proofs.Files.Matching

/-!
Preparing an output folder. If its path holds no pattern, the old modules of the folder and of its
traits are removed, and everything else stays. With a pattern in it the path is searched for as a
pattern, and modules of other folders are removed.
-/

set_option autoImplicit false

namespace VocabBindings.Module

open Files

variable {t next : Tree}

/-! Removing files. -/

theorem exists_of_remove {path : Text} (h : t.remove path = .ok next) :
    ∃ bytes, t.find? (placeOf path) = some (.file bytes) ∧ next = t.erase (placeOf path) := by
  unfold Tree.remove at h
  split at h
  · cases h
  · cases h
  · cases h
  · rename_i place bytes hlocate hlook
    obtain ⟨⟩ := h
    obtain ⟨found, hfound, hfind⟩ := Tree.exists_of_look hlook
    obtain rfl : place = found := by
      rw [hlocate] at hfound
      exact Except.ok.inj hfound
    rw [← (Tree.locate_eq_ok hlocate).1]
    exact ⟨bytes, hfind, rfl⟩

/-- A tree from which files at some places are gone. -/
structure Lost (places : List Place) (t next : Tree) : Prop where
  find? : ∀ q, next.find? q = if q ∈ places then none else t.find? q
  files : ∀ q ∈ places, ∃ bytes, t.find? q = some (.file bytes)
  wellFormed : t.WellFormed → next.WellFormed

theorem Lost.nil_not_mem {places : List Place} (h : Lost places t next) : [] ∉ places := by
  intro hmem
  obtain ⟨bytes, hbytes⟩ := h.files [] hmem
  cases hbytes

theorem Lost.folders {places : List Place} (h : Lost places t next) {q : Place}
    (hq : t.find? q = some .folder) : next.find? q = some .folder := by
  rw [h.find? q, if_neg, hq]
  intro hmem
  obtain ⟨bytes, hbytes⟩ := h.files q hmem
  rw [hq] at hbytes
  cases hbytes

theorem Lost.cons {place : Place} {places : List Place} {bytes : Bytes}
    (hfile : t.find? place = some (.file bytes)) (h : Lost places (t.erase place) next) :
    Lost (place :: places) t next := by
  have hne : place ≠ [] := by
    rintro rfl
    cases hfile
  refine ⟨fun q => ?_, fun q hq => ?_, fun ht => h.wellFormed (ht.erase place)⟩
  · by_cases hq : q = []
    · subst hq
      have hmem : [] ∉ place :: places := by simp [Ne.symm hne, h.nil_not_mem]
      rw [if_neg hmem]
      rfl
    · rw [h.find? q, Tree.find?_erase hq]
      by_cases hmem : q ∈ places
      · simp [hmem]
      · by_cases hplace : place = q <;> simp [hmem, hplace, @eq_comm _ q place]
  · rcases List.mem_cons.mp hq with rfl | hq
    · exact ⟨bytes, hfile⟩
    · obtain ⟨content, hcontent⟩ := h.files q hq
      have hqne : q ≠ [] := fun hnil => h.nil_not_mem (hnil ▸ hq)
      rw [Tree.find?_erase hqne] at hcontent
      split at hcontent
      · cases hcontent
      · exact ⟨content, hcontent⟩

theorem lost_of_removeAll {paths removed : List Text}
    (h : removeAll t paths = (next, .ok removed)) :
    removed = paths ∧ Lost (paths.map placeOf) t next := by
  induction paths generalizing t removed with
  | nil =>
    obtain ⟨rfl, hremoved⟩ := Prod.mk.inj h
    obtain ⟨⟩ := hremoved
    exact ⟨rfl, by simp, by simp, id⟩
  | cons path rest ih =>
    rw [removeAll] at h
    split at h
    · cases h
    · rename_i mid hremove
      obtain ⟨bytes, hfile, rfl⟩ := exists_of_remove hremove
      obtain ⟨hnext, hremoved⟩ := Prod.mk.inj h
      cases houtcome : (removeAll (t.erase (placeOf path)) rest).2 with
      | error e =>
        rw [houtcome] at hremoved
        cases hremoved
      | ok others =>
        rw [houtcome] at hremoved
        obtain ⟨⟩ := hremoved
        obtain ⟨rfl, hlost⟩ := ih (Prod.ext hnext houtcome)
        exact ⟨rfl, hlost.cons hfile⟩

/-! Removing modules. -/

def IsModuleName (name : Text) : Prop := isHidden name = false ∧ ".py".toList <:+ name

theorem IsModuleName.isPlainName {name : Text} (h : IsModuleName name) : IsPlainName name := by
  refine ⟨?_, ?_, ?_⟩
  · rintro rfl
    exact absurd (List.suffix_nil.mp h.2) (by decide)
  · rintro rfl
    exact absurd h.1 (by decide)
  · rintro rfl
    exact absurd h.1 (by decide)

theorem placeOf_module {folder name : Text} (h : IsModuleName name) (hslash : '/' ∉ name) :
    placeOf (join (shown folder) name) = placeOf folder ++ [name] := by
  rw [placeOf_join h.isPlainName hslash, ← placeFrom_namesOf, namesOf_shown, placeFrom_namesOf]

def HoldsModule (t : Tree) (place : Place) (name : Text) : Prop :=
  IsModuleName name ∧ ∃ bytes, t.find? (place ++ [name]) = some (.file bytes)

theorem HoldsModule.placeOf {folder name : Text} (h : HoldsModule t (placeOf folder) name)
    (ht : t.WellFormed) :
    Files.placeOf (join (shown folder) name) = Files.placeOf folder ++ [name] := by
  obtain ⟨bytes, hfind⟩ := h.2
  exact placeOf_module h.1 (ht.slash_not_mem_name hfind)

theorem mem_glob_modulePattern_iff {folder path : Text} (ht : t.WellFormed)
    (hs : t.Searchable folder) :
    path ∈ t.glob (modulePattern folder) ↔
      ∃ name node, t.find? (placeOf folder ++ [name]) = some node ∧ IsModuleName name ∧
        path = join (shown folder) name := by
  have hpattern : modulePattern folder = join folder ('*' :: ".py".toList) := rfl
  rw [hpattern, Tree.mem_glob_star_iff ht hs (by decide) (by decide)]
  simp only [IsModuleName, and_assoc]

/-- A tree from which the modules of folders are gone, and nothing else. -/
structure Cleared (folders : List Text) (t next : Tree) (removed : List Text) : Prop where
  nodup : removed.Nodup
  paths : ∀ path, path ∈ removed ↔
    ∃ f ∈ folders, ∃ name, HoldsModule t (placeOf f) name ∧ path = join (shown f) name
  gone : ∀ f ∈ folders, ∀ name, HoldsModule t (placeOf f) name →
    next.find? (placeOf f ++ [name]) = none
  kept : ∀ q, (∀ f ∈ folders, ∀ name, HoldsModule t (placeOf f) name → q ≠ placeOf f ++ [name]) →
    next.find? q = t.find? q

theorem cleared_of_removeAll {folder : Text} {removed : List Text} (ht : t.WellFormed)
    (hs : t.Searchable folder)
    (h : removeAll t (t.glob (modulePattern folder)) = (next, .ok removed)) :
    Cleared [folder] t next removed ∧ Lost (removed.map placeOf) t next := by
  obtain ⟨rfl, hlost⟩ := lost_of_removeAll h
  have hplace : ∀ {name : Text} {node : Node}, t.find? (placeOf folder ++ [name]) = some node →
      IsModuleName name → placeOf (join (shown folder) name) = placeOf folder ++ [name] :=
    fun hfind hname => placeOf_module hname (ht.slash_not_mem_name hfind)
  -- A folder with the name of a module is found too, but it could not have been removed.
  have hpaths : ∀ path, path ∈ t.glob (modulePattern folder) ↔
      ∃ name, HoldsModule t (placeOf folder) name ∧ path = join (shown folder) name := by
    intro path
    constructor
    · intro hmem
      obtain ⟨name, node, hfind, hname, rfl⟩ := (mem_glob_modulePattern_iff ht hs).mp hmem
      have hfile := hlost.files _ (List.mem_map_of_mem hmem)
      rw [hplace hfind hname] at hfile
      exact ⟨name, ⟨hname, hfile⟩, rfl⟩
    · rintro ⟨name, ⟨hname, bytes, hfind⟩, rfl⟩
      exact (mem_glob_modulePattern_iff ht hs).mpr ⟨name, _, hfind, hname, rfl⟩
  have hplaces : ∀ q, q ∈ (t.glob (modulePattern folder)).map placeOf ↔
      ∃ name, HoldsModule t (placeOf folder) name ∧ q = placeOf folder ++ [name] := by
    intro q
    rw [List.mem_map]
    constructor
    · rintro ⟨path, hmem, rfl⟩
      obtain ⟨name, hholds, rfl⟩ := (hpaths path).mp hmem
      obtain ⟨bytes, hfind⟩ := hholds.2
      exact ⟨name, hholds, hplace hfind hholds.1⟩
    · rintro ⟨name, hholds, rfl⟩
      obtain ⟨bytes, hfind⟩ := hholds.2
      exact ⟨_, (hpaths _).mpr ⟨name, hholds, rfl⟩, hplace hfind hholds.1⟩
  refine ⟨⟨?_, ?_, ?_, ?_⟩, hlost⟩
  · exact @Tree.nodup_glob_star t folder ".py".toList ht hs (by decide) (by decide)
  · simpa using hpaths
  · intro other hother name hholds
    obtain rfl := List.mem_singleton.mp hother
    rw [hlost.find?, if_pos ((hplaces _).mpr ⟨name, hholds, rfl⟩)]
  · intro q hq
    rw [hlost.find?, if_neg]
    intro hmem
    obtain ⟨name, hholds, heq⟩ := (hplaces q).mp hmem
    exact hq folder List.mem_cons_self name hholds heq

theorem exists_of_removeModules {folder : Text} {rest removed : List Text}
    (h : removeModules t (folder :: rest) = (next, .ok removed)) :
    ∃ mid first others, removeAll t (t.glob (modulePattern folder)) = (mid, .ok first) ∧
      removeModules mid rest = (next, .ok others) ∧ removed = first ++ others := by
  rw [removeModules] at h
  split at h
  · cases h
  · rename_i mid first hfirst
    obtain ⟨hnext, hremoved⟩ := Prod.mk.inj h
    cases houtcome : (removeModules mid rest).2 with
    | error e =>
      rw [houtcome] at hremoved
      cases hremoved
    | ok others =>
      rw [houtcome] at hremoved
      obtain ⟨⟩ := hremoved
      exact ⟨mid, first, others, hfirst, Prod.ext hnext houtcome, rfl⟩

theorem Lost.searchable {places : List Place} (h : Lost places t next) {folder : Text}
    (hs : t.Searchable folder) : next.Searchable folder :=
  ⟨hs.plain, hs.noNull, hs.short, Tree.walk_of_folders (fun _ hq => h.folders hq) hs.walk⟩

theorem Cleared.holdsModule_iff {folder : Text} {removed : List Text}
    (h : Cleared [folder] t next removed) {place : Place} (hne : place ≠ placeOf folder)
    {name : Text} : HoldsModule next place name ↔ HoldsModule t place name := by
  rw [HoldsModule, HoldsModule, h.kept]
  intro other hother module _ heq
  obtain rfl := List.mem_singleton.mp hother
  exact hne (List.append_inj' heq rfl).1

theorem cleared_of_removeModules {folders removed : List Text} (ht : t.WellFormed)
    (hs : ∀ folder ∈ folders, t.Searchable folder) (hdistinct : (folders.map placeOf).Nodup)
    (h : removeModules t folders = (next, .ok removed)) : Cleared folders t next removed := by
  induction folders generalizing t removed with
  | nil =>
    obtain ⟨rfl, hremoved⟩ := Prod.mk.inj h
    obtain ⟨⟩ := hremoved
    exact ⟨List.nodup_nil, by simp, by simp, fun _ _ => rfl⟩
  | cons folder rest ih =>
    obtain ⟨mid, first, others, hfirst, hothers, rfl⟩ := exists_of_removeModules h
    obtain ⟨hcleared, hlost⟩ := cleared_of_removeAll ht (hs folder List.mem_cons_self) hfirst
    obtain ⟨hnew, hdistinct⟩ := List.nodup_cons.mp hdistinct
    have hrest := ih (hlost.wellFormed ht)
      (fun other hother => hlost.searchable (hs other (List.mem_cons_of_mem _ hother)))
      hdistinct hothers
    have hplace : ∀ other ∈ rest, placeOf other ≠ placeOf folder := fun other hother heq =>
      hnew (heq ▸ List.mem_map_of_mem hother)
    have hholds : ∀ other ∈ rest, ∀ name,
        HoldsModule mid (placeOf other) name ↔ HoldsModule t (placeOf other) name :=
      fun other hother name => hcleared.holdsModule_iff (hplace other hother)
    refine ⟨?_, fun path => ?_, fun other hother name hmodule => ?_, fun q hq => ?_⟩
    · rw [List.nodup_append]
      refine ⟨hcleared.nodup, hrest.nodup, ?_⟩
      rintro path hpath _ hmem rfl
      obtain ⟨_, hfolder, name, hmodule, rfl⟩ := (hcleared.paths path).mp hpath
      obtain rfl := List.mem_singleton.mp hfolder
      obtain ⟨other, hother, module, hlater, heq⟩ := (hrest.paths _).mp hmem
      have hends := congrArg placeOf heq
      rw [hmodule.placeOf ht, hlater.placeOf (hlost.wellFormed ht)] at hends
      exact hplace other hother (List.append_inj' hends rfl).1.symm
    · simp only [List.mem_append, hcleared.paths, hrest.paths, List.mem_cons, List.not_mem_nil,
        or_false, exists_eq_left, exists_eq_or_imp]
      refine or_congr_right (exists_congr fun other => and_congr_right fun hother => ?_)
      simp only [hholds other hother]
    · rcases List.mem_cons.mp hother with rfl | hother
      · rw [hrest.kept]
        · exact hcleared.gone other List.mem_cons_self name hmodule
        · intro later hlater module _ heq
          exact hplace later hlater (List.append_inj' heq rfl).1.symm
      · exact hrest.gone other hother name ((hholds other hother name).mpr hmodule)
    · rw [hrest.kept, hcleared.kept]
      · intro other hother
        exact hq other (List.mem_singleton.mp hother ▸ List.mem_cons_self)
      · intro other hother name hmodule
        exact hq other (List.mem_cons_of_mem _ hother) name ((hholds other hother name).mp hmodule)

theorem Cleared.folders {folders removed : List Text} (h : Cleared folders t next removed)
    {q : Place} (hq : t.find? q = some .folder) : next.find? q = some .folder := by
  rw [h.kept, hq]
  rintro folder - name ⟨-, bytes, hfile⟩ rfl
  rw [hq] at hfile
  cases hfile

/-! The whole preparation. -/

theorem slash_not_mem_traitFolder : '/' ∉ traitFolder := by decide

theorem isPlainName_traitFolder : IsPlainName traitFolder := by decide

theorem placeOf_traitFolderIn (folder : Text) :
    placeOf (traitFolderIn folder) = placeOf folder ++ [traitFolder] :=
  placeOf_join isPlainName_traitFolder slash_not_mem_traitFolder folder

theorem isPattern_traitFolderIn {folder : Text} (h : isPattern folder = false) :
    isPattern (traitFolderIn folder) = false := by
  have hname : isPattern ('/' :: traitFolder) = false := by decide
  have htrait : isPattern traitFolder = false := by decide
  rw [traitFolderIn, join, if_neg (by decide)]
  split
  · rw [isPattern_append, h, htrait]
    rfl
  · rw [isPattern_append, h, hname]
    rfl

theorem searchable_of_look {folder : Text} (hplain : isPattern folder = false)
    (h : t.look (traitFolderIn folder) = .ok .folder) :
    t.Searchable folder ∧ t.Searchable (traitFolderIn folder) := by
  obtain ⟨place, hlocate, hfind⟩ := Tree.exists_of_look h
  have husable := Tree.usable_of_locate hlocate
  obtain ⟨rfl, hwalk⟩ := Tree.locate_eq_ok hlocate
  have hlead : folder <+: traitFolderIn folder := prefix_join slash_not_mem_traitFolder folder
  constructor
  · refine ⟨hplain, fun hnull => husable.noNull (hlead.subset hnull),
      Nat.lt_of_le_of_lt (length_encode_le hlead) husable.short, ?_⟩
    have hnames := hwalk hfind
    rw [← Tree.walk_namesOf, traitFolderIn,
      namesOf_join isPlainName_traitFolder.1 slash_not_mem_traitFolder, Tree.walk_append] at hnames
    split at hnames
    · cases hnames
    · rename_i q hq
      rw [← Tree.walk_namesOf, hq, (Tree.walk_eq_ok hq).1, placeFrom_namesOf]
  · exact ⟨isPattern_traitFolderIn hplain, husable.noNull, husable.short, hwalk hfind⟩

/-- An output folder that is there with the folder of its traits, without the modules that were in
the two before. -/
structure Renewed (folder : Text) (t next : Tree) (removed : List Text) : Prop where
  reached : next.walk [] (Text.pieces '/' (traitFolderIn folder)) =
    .ok (placeOf folder ++ [traitFolder])
  nodup : removed.Nodup
  paths : ∀ path, path ∈ removed ↔ ∃ f ∈ [folder, traitFolderIn folder],
    ∃ name, HoldsModule t (placeOf f) name ∧ path = join (shown f) name
  gone : ∀ f ∈ [folder, traitFolderIn folder], ∀ name, HoldsModule t (placeOf f) name →
    next.find? (placeOf f ++ [name]) = none
  /-- Everything else stays, but folders may be new. -/
  kept : ∀ q, (∀ f ∈ [folder, traitFolderIn folder], ∀ name, HoldsModule t (placeOf f) name →
      q ≠ placeOf f ++ [name]) →
    next.find? q = t.find? q ∨
      (t.find? q = none ∧ next.find? q = some .folder ∧ OnTheWay (traitFolderIn folder) q)

theorem holdsModule_iff_of_gained {path : Text} (h : Gained path t next) {place : Place}
    {name : Text} : HoldsModule next place name ↔ HoldsModule t place name := by
  simp only [HoldsModule, h.files]

theorem exists_of_prepare {folder : Text} {removed : List Text}
    (h : (prepare t folder true).outcome = .ok removed) :
    (t.makeFolders (traitFolderIn folder)).2 = none ∧
      removeModules (t.makeFolders (traitFolderIn folder)).1 [folder, traitFolderIn folder] =
        ((prepare t folder true).files, .ok removed) := by
  unfold prepare at h ⊢
  split at h
  · cases h
  · rename_i made hmade
    simp only [if_true] at h ⊢
    split at h
    · cases h
    · rename_i final others hremoved
      obtain ⟨⟩ := h
      rw [hmade]
      exact ⟨rfl, hremoved⟩

theorem renewed_of_prepare {folder : Text} {removed : List Text} (ht : t.WellFormed)
    (hplain : isPattern folder = false) (h : (prepare t folder true).outcome = .ok removed) :
    Renewed folder t (prepare t folder true).files removed := by
  obtain ⟨hmade, hremoved⟩ := exists_of_prepare h
  have hgained := Tree.gained_makeFolders (traitFolderIn folder) t
  have hdot := lastName_join_ne_dot isPlainName_traitFolder.1 slash_not_mem_traitFolder
    isPlainName_traitFolder.2.1 folder
  obtain ⟨hfolder, htraits⟩ := searchable_of_look hplain (Tree.look_of_makeFolders hdot hmade)
  have hsearchable : ∀ f ∈ [folder, traitFolderIn folder],
      (t.makeFolders (traitFolderIn folder)).1.Searchable f := by simp [hfolder, htraits]
  have hdistinct : ([folder, traitFolderIn folder].map placeOf).Nodup := by
    simp [placeOf_traitFolderIn]
  have hcleared := cleared_of_removeModules (hgained.wellFormed ht) hsearchable hdistinct hremoved
  have hholds : ∀ {place : Place} {name : Text},
      HoldsModule (t.makeFolders (traitFolderIn folder)).1 place name ↔ HoldsModule t place name :=
    holdsModule_iff_of_gained hgained
  refine ⟨?_, hcleared.nodup, ?_, ?_, ?_⟩
  · rw [← placeOf_traitFolderIn]
    exact Tree.walk_of_folders (fun _ hq => hcleared.folders hq) htraits.walk
  · simpa only [hholds] using hcleared.paths
  · simpa only [hholds] using hcleared.gone
  · intro q hq
    rw [hcleared.kept q (by simpa only [hholds] using hq)]
    exact hgained.find? q

def shelf : Tree :=
  ⟨[(["out".toList], .folder),
    (["out".toList, "thing.py".toList], .file []),
    (["out".toList, ".thing.py".toList], .file []),
    (["out".toList, "notes.txt".toList], .file []),
    (["out".toList, "traits".toList], .folder),
    (["out".toList, "traits".toList, "thing_trait.py".toList], .file []),
    (["out".toList, "deep".toList], .folder),
    (["out".toList, "deep".toList, "thing.py".toList], .file []),
    (["other.py".toList], .file [])]⟩

theorem renewed_of_prepare_shelf :
    shelf.WellFormed ∧ isPattern "out".toList = false ∧
      Renewed "out".toList shelf (prepare shelf "out".toList true).files
        ["out/thing.py".toList, "out/traits/thing_trait.py".toList] := by
  have hshelf : shelf.WellFormed := ⟨by decide, by decide⟩
  have hprepared : (prepare shelf "out".toList true).outcome =
      .ok ["out/thing.py".toList, "out/traits/thing_trait.py".toList] := by decide +kernel
  exact ⟨hshelf, by decide, renewed_of_prepare hshelf (by decide) hprepared⟩

def bracketed : Tree :=
  ⟨[(["out1".toList], .folder),
    (["out1".toList, "keep.py".toList], .file []),
    (["out[1]".toList], .folder),
    (["out[1]".toList, "old.py".toList], .file [])]⟩

/-- The module of the other folder is removed, and that of the folder itself stays. -/
theorem exists_prepare_not_renewed :
    ∃ t folder, t.WellFormed ∧
      (prepare t folder true).outcome = .ok ["out1/keep.py".toList] ∧
      ¬ Renewed folder t (prepare t folder true).files ["out1/keep.py".toList] := by
  refine ⟨bracketed, "out[1]".toList, ⟨by decide, by decide⟩, by decide +kernel, fun h => ?_⟩
  have hmodule : HoldsModule bracketed (placeOf "out[1]".toList) "old.py".toList :=
    ⟨⟨by decide, by decide⟩, [], by decide⟩
  have hstays : (prepare bracketed "out[1]".toList true).files.find?
      (placeOf "out[1]".toList ++ ["old.py".toList]) = some (.file []) := by decide +kernel
  have hgone := h.gone "out[1]".toList List.mem_cons_self _ hmodule
  rw [hstays] at hgone
  cases hgone

end VocabBindings.Module
