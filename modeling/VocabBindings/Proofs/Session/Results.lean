import Mathlib.Data.List.Induction
import VocabBindings.Proofs.Session.Saved

/-!
The result of a session over its steps. A resolution makes it the result of the loaded entries.
Loading replaces the entries alone, and what is generated afterwards is printed from the result that
was resolved before. As long as nothing is loaded after a resolution, the result stays current,
whatever fails and whatever becomes of the files.
-/

set_option autoImplicit false

namespace VocabBindings

namespace Outcome

variable {α β : Type} {first : Outcome α} {next : Session → Files.Tree → α → Outcome β}

theorem session_andThen_of_error {e : Failure} (h : first.value = .error e) :
    (first.andThen next).session = first.session := by
  unfold andThen
  rw [h]

theorem session_andThen (h : ∀ s t a, (next s t a).session = s) :
    (first.andThen next).session = first.session := by
  cases hfirst : first.value with
  | error e => exact session_andThen_of_error hfirst
  | ok a => rw [(andThen_of_ok hfirst).2.1, h]

end Outcome

namespace Session

inductive Step where
  | load
  | resolve
  | generate
  | save
  deriving DecidableEq

/-- A step, with the network and the files as they are when it begins. -/
structure Event where
  step : Step
  network : Web.Network
  files : Files.Tree

def perform (s : Session) (event : Event) : Session :=
  match event.step with
  | .load => (s.load event.network event.files).session
  | .resolve => (s.resolve event.network event.files).session
  | .generate => (s.generate event.network event.files).session
  | .save => (s.save event.network event.files).session

def after (s : Session) (events : List Event) : Session := events.foldl perform s

/-- A result of the session that is the one of its entries. -/
structure Current (s : Session) (r : Resolution) : Prop where
  result : s.result = some r
  resolved : ∃ naming,
    resolveClasses s.entries s.settings.schemas { overrides := s.overrides } = .ok (r, naming)

/-- What a step can make of a session. -/
inductive Becomes (s : Session) (step : Step) : Session → Prop where
  | same : Becomes s step s
  /-- Entries are loaded by a step of their own, or by a resolution that has none. -/
  | loaded (entries : List Entry)
      (h : step = .load ∨ (s.entries = [] ∧ (step = .resolve ∨ s.result = none))) :
      Becomes s step { s with entries }
  /-- A resolution is a step of its own, or generating needs one. -/
  | resolved (entries : List Entry) (r : Resolution)
      (hentries : entries = s.entries ∨ s.entries = [])
      (hstep : step = .resolve ∨ s.result = none)
      (h : Current { s with entries, result := some r } r) :
      Becomes s step { s with entries, result := some r }

variable {s next : Session} {network : Web.Network} {t : Files.Tree} {r : Resolution}
  {modules : List (Text × Text)}

theorem session_load_of_error {e : Failure} (h : (s.load network t).value = .error e) :
    (s.load network t).session = s := by
  have hsnapshot : (s.snapshot network t).session = s := by
    unfold snapshot
    split
    · rfl
    · rfl
  rcases Outcome.exists_of_andThen_error h with ⟨hfirst, -⟩ | ⟨path, hpath, hread⟩
  · rw [load, Outcome.session_andThen_of_error hfirst, hsnapshot]
  · rw [load, (Outcome.andThen_of_ok hpath).2.1]
    unfold readEntries at hread ⊢
    split at hread
    · simpa using hsnapshot
    · cases hread

theorem session_resolveLoaded_of_error {e : Failure} (h : (s.resolveLoaded t).value = .error e) :
    (s.resolveLoaded t).session = s := by
  unfold resolveLoaded at h ⊢
  dsimp only at h ⊢
  split at h
  · rfl
  · cases h

theorem value_load_of_read {entries : List Entry}
    (hsource : Settings.isAbsent s.settings.source = false)
    (hread : Snapshot.read Name.vocabularyNamespaces t (s.settings.source.getD []) = .ok entries) :
    (s.load network t).value = .ok entries := by
  simp [load, snapshot_of_source hsource, Outcome.andThen, readEntries, hread]

theorem becomes_load (s : Session) (network : Web.Network) (t : Files.Tree) :
    Becomes s .load (s.load network t).session := by
  cases h : (s.load network t).value with
  | error e =>
    rw [session_load_of_error h]
    exact .same
  | ok entries =>
    rw [session_of_load h]
    exact .loaded entries (.inl rfl)

theorem becomes_resolve {step : Step} (hstep : step = .resolve ∨ s.result = none)
    (network : Web.Network) (t : Files.Tree) : Becomes s step (s.resolve network t).session := by
  unfold resolve
  split
  · rename_i hentries
    cases hload : (s.load network t).value with
    | error e =>
      rw [Outcome.session_andThen_of_error hload, session_load_of_error hload]
      exact .same
    | ok entries =>
      rw [(Outcome.andThen_of_ok hload).2.1, session_of_load hload]
      cases h : (resolveLoaded { s with entries } (s.load network t).files).value with
      | error e =>
        rw [session_resolveLoaded_of_error h]
        exact .loaded entries (.inr ⟨hentries, hstep⟩)
      | ok r =>
        obtain ⟨naming, hclasses, hsession⟩ := exists_of_resolveLoaded_ok h
        rw [hsession]
        exact .resolved entries r (.inr hentries) hstep ⟨rfl, naming, hclasses⟩
  · cases h : (s.resolveLoaded t).value with
    | error e =>
      rw [session_resolveLoaded_of_error h]
      exact .same
    | ok r =>
      obtain ⟨naming, hclasses, hsession⟩ := exists_of_resolveLoaded_ok h
      rw [hsession]
      exact .resolved s.entries r (.inl rfl) hstep ⟨rfl, naming, hclasses⟩

theorem becomes_generate {step : Step} (s : Session) (network : Web.Network) (t : Files.Tree) :
    Becomes s step (s.generate network t).session := by
  unfold generate
  split
  · exact .same
  · rename_i hresult
    rw [Outcome.session_andThen fun _ _ _ => rfl]
    exact becomes_resolve (.inr hresult) network t

theorem session_save (s : Session) (network : Web.Network) (t : Files.Tree) :
    (s.save network t).session = (s.generate network t).session := by
  refine Outcome.session_andThen fun s t modules => ?_
  exact Outcome.session_andThen fun s t removed => rfl

theorem becomes_perform (s : Session) (event : Event) :
    Becomes s event.step (s.perform event) := by
  unfold perform
  split
  · rename_i hstep
    rw [hstep]
    exact s.becomes_load event.network event.files
  · rename_i hstep
    rw [hstep]
    exact becomes_resolve (.inl rfl) event.network event.files
  · exact s.becomes_generate event.network event.files
  · rw [session_save]
    exact s.becomes_generate event.network event.files

theorem Becomes.settings_eq {step : Step} (h : Becomes s step next) :
    next.settings = s.settings ∧ next.overrides = s.overrides := by
  cases h <;> exact ⟨rfl, rfl⟩

theorem after_concat (s : Session) (events : List Event) (event : Event) :
    s.after (events ++ [event]) = (s.after events).perform event := by
  simp [after]

theorem settings_after (s : Session) (events : List Event) :
    (s.after events).settings = s.settings ∧ (s.after events).overrides = s.overrides := by
  induction events using List.reverseRecOn with
  | nil => exact ⟨rfl, rfl⟩
  | append_singleton events event ih =>
    rw [after_concat]
    have hsame := ((s.after events).becomes_perform event).settings_eq
    exact ⟨hsame.1.trans ih.1, hsame.2.trans ih.2⟩

theorem Current.entries_ne_nil (h : Current s r) {name : Text} (hm : name ∈ s.settings.schemas)
    (hn : name ≠ []) : s.entries ≠ [] := by
  intro hentries
  obtain ⟨naming, hclasses⟩ := h.resolved
  obtain ⟨index, c, hindex, hc, -⟩ := exists_of_resolveClasses_eq_ok hclasses
  rw [hentries] at hindex
  obtain rfl := Except.ok.inj hindex
  have ha := Context.answers_of_requireAll hc
  have hreq : name ∈ c.required := ha.required ▸ Index.mem_discovered_of_mem hm hn
  exact absurd (ha.held name hreq) (by simp [Index.contains, Index.get?, Index.empty])

/-- What is known of the result of a session that has made steps: it was current once, and it is
still, unless a load has come in between. -/
theorem exists_current_before {name : Text} (hfresh : s.result = none)
    (hm : name ∈ s.settings.schemas) (hn : name ≠ []) (events : List Event)
    (hr : (s.after events).result = some r) :
    ∃ before later, events = before ++ later ∧ Current (s.after before) r ∧
      ((∀ event ∈ later, event.step ≠ .load) → Current (s.after events) r) := by
  induction events using List.reverseRecOn with
  | nil => exact absurd (hfresh.symm.trans hr) (by simp)
  | append_singleton events event ih =>
    have hsettings := s.settings_after events
    rw [after_concat] at hr ⊢
    generalize hnext : (s.after events).perform event = next at hr ⊢
    have hbecomes := hnext ▸ (s.after events).becomes_perform event
    cases hbecomes with
    | same =>
      obtain ⟨before, later, rfl, hcurrent, hkept⟩ := ih hr
      refine ⟨before, later ++ [event], by simp, hcurrent, fun hno => hkept fun e he => ?_⟩
      exact hno e (List.mem_append_left _ he)
    | loaded entries h =>
      obtain ⟨before, later, rfl, hcurrent, hkept⟩ := ih hr
      refine ⟨before, later ++ [event], by simp, hcurrent, fun hno => ?_⟩
      -- The step was no load, so there were no entries, and yet the result was current.
      have hlater := hkept fun e he => hno e (List.mem_append_left _ he)
      have hempty := (h.resolve_left (hno event (by simp))).1
      exact absurd hempty (hlater.entries_ne_nil (by rw [hsettings.1]; exact hm) hn)
    | resolved entries r' hentries hstep h =>
      obtain rfl : r' = r := Option.some.inj hr
      refine ⟨events ++ [event], [], by simp, ?_, fun _ => h⟩
      rw [after_concat, hnext]
      exact h

theorem current_of_resolve (h : (s.resolve network t).value = .ok r) :
    Current (s.resolve network t).session r := by
  by_cases hentries : s.entries = []
  · obtain ⟨entries, naming, -, hclasses, hsession⟩ := exists_of_resolve_ok hentries h
    rw [hsession]
    exact ⟨rfl, naming, hclasses⟩
  · have hresolve : s.resolve network t = s.resolveLoaded t := if_neg hentries
    rw [hresolve] at h ⊢
    obtain ⟨naming, hclasses, hsession⟩ := exists_of_resolveLoaded_ok h
    rw [hsession]
    exact ⟨rfl, naming, hclasses⟩

theorem exists_result_of_generate (h : (s.generate network t).value = .ok modules) :
    ∃ r, Module.packageFiles { package := s.package } r = .ok modules ∧
      (s.generate network t).session.result = some r ∧
      (s.result = some r ∨ s.result = none ∧ Current (s.generate network t).session r) := by
  cases hresult : s.result with
  | some r =>
    have hgenerate : s.generate network t = s.render t r := by
      unfold generate
      rw [hresult]
    rw [hgenerate] at h ⊢
    exact ⟨r, eq_ok_of_mapError h, hresult, .inl rfl⟩
  | none =>
    obtain ⟨r, hresolve, hfiles, hsession⟩ := exists_of_generate_ok hresult h
    have hcurrent := current_of_resolve hresolve
    have hpackage : (s.resolve network t).session.package = s.package := by
      rw [package, (becomes_resolve (.inl rfl) network t).settings_eq.1, package]
    rw [hsession]
    exact ⟨r, hpackage ▸ hfiles, hcurrent.result, .inr ⟨rfl, hcurrent⟩⟩

theorem result_load (s : Session) (network : Web.Network) (t : Files.Tree) :
    (s.load network t).session.result = s.result := by
  cases h : (s.load network t).value with
  | error e => rw [session_load_of_error h]
  | ok entries => rw [session_of_load h]

theorem exists_class_of_start {settings : Settings} {overrides : List (Text × Option Text)}
    (hstart : start settings overrides = .ok s) : ∃ name ∈ settings.schemas, name ≠ [] := by
  have hmissing : settings.missing = [] := by
    by_contra hne
    have hfault : settings.fault? = some ⟨settings.missing⟩ := if_neg hne
    rw [start, hfault] at hstart
    cases hstart
  have hschemas : settings.schemas ≠ [] := by
    intro hempty
    rw [Settings.missing, if_pos hempty] at hmissing
    exact absurd (List.append_eq_nil_iff.mp (List.append_eq_nil_iff.mp hmissing).1).1 (by simp)
  obtain ⟨name, hm⟩ := List.exists_mem_of_ne_nil _ hschemas
  exact ⟨name, hm, Settings.ne_nil_of_mem_schemas hm⟩

/-- Whatever steps a session makes, and whatever the files are at each of them: a result of it was
current after some step, and it is current as long as no load follows. A load keeps the result, a
resolution that succeeds leaves a current one, and modules are printed from the result that is there
or else from a current one. -/
theorem result_of_run {settings : Settings} {overrides : List (Text × Option Text)}
    (hstart : start settings overrides = .ok s) (events : List Event) :
    (∀ r, (s.after events).result = some r →
      ∃ before later, events = before ++ later ∧ Current (s.after before) r ∧
        ((∀ event ∈ later, event.step ≠ .load) → Current (s.after events) r)) ∧
    ∀ network t,
      ((s.after events).load network t).session.result = (s.after events).result ∧
      (∀ r, ((s.after events).resolve network t).value = .ok r →
        Current ((s.after events).resolve network t).session r) ∧
      ∀ modules, ((s.after events).generate network t).value = .ok modules →
        ∃ r, Module.packageFiles { package := s.package } r = .ok modules ∧
          ((s.after events).generate network t).session.result = some r ∧
          ((s.after events).result = some r ∨ (s.after events).result = none ∧
            Current ((s.after events).generate network t).session r) := by
  have hfresh := eq_of_start hstart
  obtain ⟨name, hm, hn⟩ := exists_class_of_start hstart
  refine ⟨fun r hr => ?_, fun network t =>
    ⟨result_load .., fun r => current_of_resolve, fun modules h => ?_⟩⟩
  · rw [hfresh] at hr ⊢
    exact exists_current_before rfl hm hn events hr
  · have hpackage : (s.after events).package = s.package := by
      rw [package, (s.settings_after events).1, package]
    rw [← hpackage]
    exact exists_result_of_generate h

section

def annotated : Files.Tree :=
  ⟨[(["v.json".toList],
      .file (Text.encode
        ("[\x7b\"@id\": \"Thing\", \"@type\": \"rdfs:Class\", ".toList ++
          "\"rdfs:comment\": \"Any thing.\"\x7d]".toList)))]⟩

def annotatedEntries : List Entry :=
  [{ id := "Thing".toList, kind := .schema, comment := "Any thing.".toList, uri := "Thing".toList }]

def offline : Web.Network := fun _ => .failure []

def republished : Session := { settings := republication }

def libraryResult : Resolution where
  classes := [{ name := "Thing".toList, traits := ["Thing".toList] }]
  requested := ["Thing".toList]
  suggestions := []

theorem resolve_library :
    (republished.resolve offline library).value = .ok libraryResult ∧
      (republished.resolve offline library).session =
        { republished with entries := libraryEntries, result := some libraryResult } := by
  let c : Context :=
    { index := ⟨libraryEntries⟩, requested := ["Thing".toList], required := ["Thing".toList] }
  have hi : Index.ofEntries libraryEntries = .ok ⟨libraryEntries⟩ := by cbv
  have hc : ({ index := ⟨libraryEntries⟩ : Context }).requireAll ["Thing".toList] = (c, none) := by
    cbv
  have hr : c.resolution { overrides := republished.overrides } = libraryResult := by cbv
  have hread : Snapshot.read Name.vocabularyNamespaces library "v.json".toList =
      .ok libraryEntries := eq_ok_of_toOption (by decide +kernel)
  obtain ⟨hvalue, hsession, -⟩ := republished.resolve_of_read offline rfl (by decide) hread
    (resolveClasses_eq_ok hi hc)
  rw [hr] at hvalue hsession
  exact ⟨hvalue, hsession⟩

theorem result_of_run_library :
    let run : List Event := [⟨.resolve, offline, library⟩, ⟨.generate, offline, annotated⟩]
    start republication [] = .ok republished ∧
      Current (republished.after run) libraryResult := by
  intro run
  have hstart : start republication [] = .ok republished := rfl
  have hresult : (republished.after run).result = some libraryResult := by
    have hrun : republished.after run =
        ((republished.resolve offline library).session.generate offline annotated).session := rfl
    rw [hrun, resolve_library.2]
    rfl
  obtain ⟨before, later, hsplit, -, hkept⟩ :=
    (result_of_run hstart run).1 libraryResult hresult
  refine ⟨hstart, hkept fun event he => ?_⟩
  have hno : ∀ event ∈ run, event.step ≠ .load := by simp [run]
  exact hno event (hsplit ▸ List.mem_append_right _ he)

theorem load_annotated (entries : List Entry) (result : Option Resolution) :
    (load { republished with entries, result } offline annotated).session =
      { republished with entries := annotatedEntries, result } := by
  have hread : Snapshot.read Name.vocabularyNamespaces annotated "v.json".toList =
      .ok annotatedEntries := eq_ok_of_toOption (by decide +kernel)
  have hsource : Settings.isAbsent republication.source = false := by decide
  exact session_of_load (value_load_of_read hsource hread)

/-- A load after the resolution leaves a result that is not the one of the entries. -/
theorem exists_result_not_current :
    let run : List Event := [⟨.resolve, offline, library⟩, ⟨.load, offline, annotated⟩]
    start republication [] = .ok republished ∧
      (republished.after run).result = some libraryResult ∧
      (∃ other naming, resolveClasses (republished.after run).entries republication.schemas {} =
        .ok (other, naming) ∧ other ≠ libraryResult) ∧
      ¬ Current (republished.after run) libraryResult := by
  intro run
  have hafter : republished.after run =
      { republished with entries := annotatedEntries, result := some libraryResult } := by
    have hrun : republished.after run =
        ((republished.resolve offline library).session.load offline annotated).session := rfl
    rw [hrun, resolve_library.2, load_annotated]
  let c : Context :=
    { index := ⟨annotatedEntries⟩, requested := ["Thing".toList], required := ["Thing".toList] }
  have hi : Index.ofEntries annotatedEntries = .ok ⟨annotatedEntries⟩ := by cbv
  have hc : ({ index := ⟨annotatedEntries⟩ : Context }).requireAll republication.schemas =
      (c, none) := by
    cbv
  have hclasses := resolveClasses_eq_ok (m := {}) hi hc
  have hother : c.resolution {} ≠ libraryResult := by decide
  rw [hafter]
  refine ⟨rfl, rfl, ⟨_, _, hclasses, hother⟩, fun hcurrent => hother ?_⟩
  obtain ⟨naming, hresolved⟩ := hcurrent.resolved
  have hsame := hclasses.symm.trans hresolved
  exact (Prod.mk.inj (Except.ok.inj hsame)).1

end

end Session

end VocabBindings
