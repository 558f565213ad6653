import VocabBindings.Proofs.Package.Output
import VocabBindings.Proofs.Session.Steps

/-!
Sessions that write a whole package. The modules that a fresh session generates are in the output
folder afterwards, alone with removal and beside the earlier ones without it, and nothing else is
different.
-/

set_option autoImplicit false

namespace VocabBindings.Session

open Files

variable {s : Session} {network : Web.Network} {t : Tree}

theorem isModulePath_of_generate {modules : List (Text × Text)} (hentries : s.entries = [])
    (hresult : s.result = none) (h : (s.generate network t).value = .ok modules) :
    ((∀ file ∈ modules, Module.IsModulePath file.1) ∧ (modules.map Prod.fst).Nodup) ∧
      (s.generate network t).session.settings = s.settings := by
  obtain ⟨r, hresolve, hfiles, hsame⟩ := exists_of_generate_ok hresult h
  obtain ⟨entries, naming, -, hclasses, hsession⟩ := exists_of_resolve_ok hentries hresolve
  exact ⟨Module.isModulePath_of_resolveClasses hclasses hfiles, by rw [hsame, hsession]⟩

/-- A session with a snapshot that is named and an output folder whose path is no pattern saves all
modules that it generates, and returns their paths in order. -/
theorem complete_of_save {settings : Settings} {overrides : List (Text × Option Text)}
    {written : List Text} (ht : t.WellFormed) (hstart : start settings overrides = .ok s)
    (hsource : Settings.isAbsent s.settings.source = false) (hplain : isPattern s.folder = false)
    (h : (s.save network t).value = .ok written) :
    ∃ modules, (s.generate network t).value = .ok modules ∧
      written = modules.map (fun file => join s.folder file.1) ∧
      (∀ file ∈ modules, Module.IsModulePath file.1) ∧ (modules.map Prod.fst).Nodup ∧
      Module.Complete s.folder s.settings.removeOld modules t (s.save network t).files := by
  obtain ⟨modules, removed, hgenerate, hprepare, hwrite⟩ := exists_of_save_ok h
  have hfresh := eq_of_start hstart
  obtain ⟨⟨hpaths, hdistinct⟩, hsettings⟩ := isModulePath_of_generate (by rw [hfresh])
    (by rw [hfresh]) hgenerate
  have hfolder : (s.generate network t).session.folder = s.folder := by
    rw [folder, hsettings, folder]
  have hfiles : (s.generate network t).files = t := by
    rcases s.files_generate network t with heq | heq
    · exact heq
    · rw [heq, snapshot_of_source hsource]
  rw [hfolder, hsettings, hfiles] at hprepare hwrite
  have hready := Module.ready_of_prepare ht hplain hprepare
  obtain ⟨rfl, hwritten⟩ := Module.written_of_writeFiles hready.folders hpaths hdistinct hwrite
  exact ⟨modules, hgenerate, rfl, hpaths, hdistinct,
    Module.complete_of_ready hpaths hready hwritten⟩

def republication : Settings where
  schemas := ["Thing".toList]
  package := some "library".toList
  folder := some "out".toList
  removeOld := true
  cacheFolder := "cache".toList
  source := some "v.json".toList

def library : Tree :=
  ⟨[(["v.json".toList],
      .file (Text.encode "[\x7b\"@id\": \"Thing\", \"@type\": \"rdfs:Class\"\x7d]".toList)),
    (["out".toList], .folder),
    (["out".toList, "old.py".toList], .file []),
    (["out".toList, "notes.txt".toList], .file [])]⟩

def libraryEntries : List Entry :=
  [{ id := "Thing".toList, kind := .schema, uri := "Thing".toList }]

theorem eq_ok_of_toOption {ε α : Type} {outcome : Except ε α} {value : α}
    (h : outcome.toOption = some value) : outcome = .ok value := by
  cases outcome with
  | error e => cases h
  | ok other => exact congrArg Except.ok (Option.some.inj h)

def libraryPaths : List Text :=
  ["out/traits/thing_trait.py", "out/thing.py", "out/traits/__init__.py", "out/__init__.py"].map
    String.toList

theorem complete_of_save_library :
    ∃ s modules, library.WellFormed ∧ start republication [] = .ok s ∧
      Settings.isAbsent s.settings.source = false ∧ isPattern s.folder = false ∧
      (s.save (fun _ => .failure []) library).value = .ok libraryPaths ∧
      libraryPaths = modules.map (fun file => join s.folder file.1) ∧
      Module.Complete s.folder true modules library
        (s.save (fun _ => .failure []) library).files := by
  let s : Session := { settings := republication }
  let network : Web.Network := fun _ => .failure []
  let c : Context :=
    { index := ⟨libraryEntries⟩, requested := ["Thing".toList], required := ["Thing".toList] }
  have hi : Index.ofEntries libraryEntries = .ok ⟨libraryEntries⟩ := by cbv
  have hc : ({ index := ⟨libraryEntries⟩ : Context }).requireAll ["Thing".toList] = (c, none) := by
    cbv
  have hr : c.resolution {} =
      ⟨[{ name := "Thing".toList, traits := ["Thing".toList] }], ["Thing".toList], []⟩ := by cbv
  have hread : Snapshot.read Name.vocabularyNamespaces library "v.json".toList =
      .ok libraryEntries := eq_ok_of_toOption (by decide +kernel)
  obtain ⟨hvalue, hsession, hfiles⟩ := s.resolve_of_read network rfl (by decide) hread
    (resolveClasses_eq_ok hi hc)
  have hsave : (s.save network library).value = .ok libraryPaths := by
    rw [value_save_of_resolve rfl hvalue (by rw [hsession]), hsession, hfiles, hr]
    exact eq_ok_of_toOption (by decide +kernel)
  have hlibrary : library.WellFormed := ⟨by decide, by decide⟩
  have hstart : start republication [] = .ok s := rfl
  obtain ⟨modules, -, hpaths, -, -, hcomplete⟩ := complete_of_save hlibrary hstart (by decide)
    (by decide) hsave
  exact ⟨s, modules, hlibrary, rfl, by decide, by decide, hsave, hpaths, hcomplete⟩

end VocabBindings.Session
