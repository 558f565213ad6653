import VocabBindings.Proofs.Snapshot.Cache
import VocabBindings.Session

/-!
The steps of a session before its output. Only fetching a snapshot changes files, and a step that is
about the output is not begun before all others are done.
-/

set_option autoImplicit false

namespace VocabBindings

open Files

namespace Outcome

variable {α β : Type} {first : Outcome α} {next : Session → Tree → α → Outcome β}

theorem exists_of_andThen_ok {value : β} (h : (first.andThen next).value = .ok value) :
    ∃ a, first.value = .ok a ∧ (next first.session first.files a).value = .ok value := by
  unfold andThen at h
  split at h
  · cases h
  · rename_i a ha
    exact ⟨a, ha, h⟩

theorem exists_of_andThen_error {e : Failure} (h : (first.andThen next).value = .error e) :
    (first.value = .error e ∧ (first.andThen next).files = first.files) ∨
      ∃ a, first.value = .ok a ∧ (next first.session first.files a).value = .error e := by
  unfold andThen at h ⊢
  split at h
  · rename_i f hf
    obtain ⟨⟩ := h
    exact .inl ⟨hf, rfl⟩
  · rename_i a ha
    exact .inr ⟨a, ha, h⟩

theorem andThen_of_ok {a : α} (h : first.value = .ok a) :
    (first.andThen next).value = (next first.session first.files a).value ∧
      (first.andThen next).session = (next first.session first.files a).session ∧
      (first.andThen next).files = (next first.session first.files a).files := by
  unfold andThen
  rw [h]
  exact ⟨rfl, rfl, rfl⟩

theorem files_andThen (h : ∀ s t a, (next s t a).files = t) :
    (first.andThen next).files = first.files := by
  cases hfirst : first.value with
  | error e =>
    unfold andThen
    rw [hfirst]
  | ok a => rw [(andThen_of_ok hfirst).2.2, h]

end Outcome

namespace Session

variable {s : Session} {settings : Settings} {overrides : List (Text × Option Text)}
  {network : Web.Network} {t : Tree}

theorem eq_of_start (h : start settings overrides = .ok s) : s = { settings, overrides } := by
  unfold start at h
  split at h
  · cases h
  · exact (Except.ok.inj h).symm

theorem files_readEntries (s : Session) (t : Tree) (path : Text) :
    (s.readEntries t path).files = t := by
  unfold readEntries
  split
  · rfl
  · rfl

theorem files_resolveLoaded (s : Session) (t : Tree) : (s.resolveLoaded t).files = t := by
  unfold resolveLoaded
  dsimp only
  split
  · rfl
  · rfl

/-- What a session does to the files before its output: nothing, or what fetching the snapshot
does. -/
theorem files_generate (s : Session) (network : Web.Network) (t : Tree) :
    (s.generate network t).files = t ∨
      (s.generate network t).files = (s.snapshot network t).files := by
  have hload : (s.load network t).files = (s.snapshot network t).files :=
    Outcome.files_andThen files_readEntries
  have hresolve : (s.resolve network t).files = t ∨
      (s.resolve network t).files = (s.snapshot network t).files := by
    unfold resolve
    split
    · rw [Outcome.files_andThen fun s t _ => files_resolveLoaded s t]
      exact .inr hload
    · exact .inl (files_resolveLoaded s t)
  unfold generate
  split
  · exact .inl rfl
  · rwa [Outcome.files_andThen fun _ _ _ => rfl]

theorem snapshot_of_source (h : Settings.isAbsent s.settings.source = false) :
    s.snapshot network t =
      { value := .ok (s.settings.source.getD []), session := s, files := t } := by
  unfold snapshot
  rw [h]
  rfl

theorem altered_snapshot (s : Session) (network : Web.Network) (t : Tree) :
    Altered s.cache.folder
      [placeOf (s.cache.partPath s.settings.version), placeOf (s.cache.path s.settings.version)] t
      (s.snapshot network t).files := by
  unfold snapshot
  split
  · exact s.cache.altered_fetch network t s.settings.version
  · exact .refl _ _ t

theorem exists_of_mapError_output {α : Type} {outcome : Except FileError α} {e : Failure}
    (h : outcome.mapError Failure.output = .error e) : ∃ fault, e = .output fault := by
  cases outcome with
  | ok value => cases h
  | error fault => exact ⟨fault, (Except.error.inj h).symm⟩

theorem exists_of_write_error {modules : List (Text × Text)} {e : Failure}
    (h : (s.write t modules).value = .error e) : ∃ fault, e = .output fault :=
  exists_of_mapError_output h

theorem generate_of_save_error {e : Failure} (h : (s.save network t).value = .error e)
    (hinput : ∀ fault, e ≠ .output fault) :
    (s.generate network t).value = .error e ∧
      (s.save network t).files = (s.generate network t).files := by
  rcases Outcome.exists_of_andThen_error h with hgenerate | ⟨modules, -, houtput⟩
  · exact hgenerate
  · have hfault : ∃ fault, e = .output fault := by
      rcases Outcome.exists_of_andThen_error houtput with ⟨hprepare, -⟩ | ⟨removed, -, hwrite⟩
      · exact exists_of_mapError_output hprepare
      · exact exists_of_write_error hwrite
    obtain ⟨fault, rfl⟩ := hfault
    exact absurd rfl (hinput fault)

/-! Steps that succeed. -/

section

variable {entries : List Entry} {r : Resolution} {naming : TypeNaming} {path : Text}
  {modules : List (Text × Text)} {written : List Text}

theorem session_of_readEntries (h : (s.readEntries t path).value = .ok entries) :
    (s.readEntries t path).session = { s with entries } := by
  unfold readEntries at h ⊢
  split at h
  · cases h
  · obtain ⟨⟩ := h
    rfl

theorem session_of_load (h : (s.load network t).value = .ok entries) :
    (s.load network t).session = { s with entries } := by
  obtain ⟨path, hsnapshot, hread⟩ := Outcome.exists_of_andThen_ok h
  have hsession : (s.snapshot network t).session = s := by
    unfold snapshot
    split
    · rfl
    · rfl
  have hload : (s.load network t).session =
      ((s.snapshot network t).session.readEntries (s.snapshot network t).files path).session :=
    (Outcome.andThen_of_ok hsnapshot).2.1
  rw [hload, session_of_readEntries hread, hsession]

theorem exists_of_resolveLoaded_ok (h : (s.resolveLoaded t).value = .ok r) :
    ∃ naming, resolveClasses s.entries s.settings.schemas { overrides := s.overrides } =
        .ok (r, naming) ∧
      (s.resolveLoaded t).session = { s with result := some r } := by
  unfold resolveLoaded at h ⊢
  dsimp only at h ⊢
  split at h
  · cases h
  · rename_i result naming hresolve
    obtain ⟨⟩ := h
    exact ⟨naming, hresolve, rfl⟩

theorem exists_of_resolve_ok (hentries : s.entries = [])
    (h : (s.resolve network t).value = .ok r) :
    ∃ entries naming, (s.load network t).value = .ok entries ∧
      resolveClasses entries s.settings.schemas { overrides := s.overrides } = .ok (r, naming) ∧
      (s.resolve network t).session = { s with entries, result := some r } := by
  have hresolve : s.resolve network t =
      (s.load network t).andThen fun s files _ => s.resolveLoaded files := if_pos hentries
  rw [hresolve] at h ⊢
  obtain ⟨entries, hload, hvalue⟩ := Outcome.exists_of_andThen_ok h
  have hsession := session_of_load hload
  obtain ⟨naming, hclasses, hresult⟩ := exists_of_resolveLoaded_ok hvalue
  rw [hsession] at hclasses hresult
  refine ⟨entries, naming, hload, hclasses, ?_⟩
  rw [(Outcome.andThen_of_ok hload).2.1, hsession, hresult]

theorem exists_of_generate_ok (hfresh : s.result = none)
    (h : (s.generate network t).value = .ok modules) :
    ∃ r, (s.resolve network t).value = .ok r ∧
      Module.packageFiles { package := (s.resolve network t).session.package } r = .ok modules ∧
      (s.generate network t).session = (s.resolve network t).session := by
  unfold generate at h ⊢
  rw [hfresh] at h ⊢
  obtain ⟨r, hresolve, hrender⟩ := Outcome.exists_of_andThen_ok h
  refine ⟨r, hresolve, ?_, (Outcome.andThen_of_ok hresolve).2.1⟩
  unfold render at hrender
  dsimp only at hrender
  cases hfiles : Module.packageFiles { package := (s.resolve network t).session.package } r with
  | error e =>
    rw [hfiles] at hrender
    cases hrender
  | ok files =>
    rw [hfiles] at hrender
    obtain ⟨⟩ := hrender
    rfl

theorem resolve_of_read (s : Session) (network : Web.Network) (hentries : s.entries = [])
    (hsource : Settings.isAbsent s.settings.source = false)
    (hread : Snapshot.read Name.vocabularyNamespaces t (s.settings.source.getD []) = .ok entries)
    (hclasses : resolveClasses entries s.settings.schemas { overrides := s.overrides } =
      .ok (r, naming)) :
    (s.resolve network t).value = .ok r ∧
      (s.resolve network t).session = { s with entries, result := some r } ∧
      (s.resolve network t).files = t := by
  have hload : (s.load network t).value = .ok entries ∧
      (s.load network t).session = { s with entries } ∧ (s.load network t).files = t := by
    simp [load, snapshot_of_source hsource, Outcome.andThen, readEntries, hread]
  have hresolve : s.resolve network t =
      (s.load network t).andThen fun s files _ => s.resolveLoaded files := if_pos hentries
  obtain ⟨hvalue, hsession, hfiles⟩ := hload
  rw [hresolve, (Outcome.andThen_of_ok hvalue).1, (Outcome.andThen_of_ok hvalue).2.1,
    (Outcome.andThen_of_ok hvalue).2.2, hsession, hfiles]
  unfold resolveLoaded
  simp [hclasses]

theorem value_save_of_resolve (hfresh : s.result = none)
    (h : (s.resolve network t).value = .ok r)
    (hresult : (s.resolve network t).session.result = some r) :
    (s.save network t).value =
      ((s.resolve network t).session.save network (s.resolve network t).files).value := by
  have hgenerate : s.generate network t = (s.resolve network t).andThen render := by
    unfold generate
    rw [hfresh]
  have hagain : (s.resolve network t).session.generate network (s.resolve network t).files =
      (s.resolve network t).session.render (s.resolve network t).files r := by
    unfold generate
    rw [hresult]
  have hrender : ((s.resolve network t).andThen render).value = _ ∧ _ :=
    Outcome.andThen_of_ok h
  unfold save Outcome.andThen
  rw [hgenerate, hagain, hrender.1, hrender.2.1, hrender.2.2]
  split
  · rfl
  · rfl

theorem eq_ok_of_mapError {α ε ε' : Type} {f : ε → ε'} {outcome : Except ε α} {value : α}
    (h : outcome.mapError f = .ok value) : outcome = .ok value := by
  cases outcome with
  | ok _ => exact congrArg Except.ok (Except.ok.inj h)
  | error _ => cases h

/-- A saving that succeeds generates modules, prepares the output folder and writes them. -/
theorem exists_of_save_ok (h : (s.save network t).value = .ok written) :
    ∃ modules removed, (s.generate network t).value = .ok modules ∧
      let ready := Module.prepare (s.generate network t).files
        (s.generate network t).session.folder (s.generate network t).session.settings.removeOld
      ready.outcome = .ok removed ∧
        Module.writeFiles ready.files (s.generate network t).session.folder modules =
          ((s.save network t).files, .ok written) := by
  obtain ⟨modules, hgenerate, houtput⟩ := Outcome.exists_of_andThen_ok h
  obtain ⟨removed, hprepare, hwrite⟩ := Outcome.exists_of_andThen_ok houtput
  have hready := eq_ok_of_mapError hprepare
  refine ⟨modules, removed, hgenerate, hready, ?_⟩
  have hfiles : (s.save network t).files = _ := (Outcome.andThen_of_ok hgenerate).2.2.trans
    (Outcome.andThen_of_ok hprepare).2.2
  rw [hfiles]
  exact Prod.ext rfl (eq_ok_of_mapError hwrite)

end

end Session

end VocabBindings
