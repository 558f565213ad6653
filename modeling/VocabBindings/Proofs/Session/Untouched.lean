import VocabBindings.CommandLine.Run
import VocabBindings.Proofs.Session.Steps

/-!
Generations that fail before their output. The output folder is prepared only after all modules are
printed, so a failure before that has changed the cache of snapshots at most, and nothing at all if
the snapshot is a file that was named.
-/

set_option autoImplicit false

namespace VocabBindings.Session

open Files

def snapshotPlaces (s : Session) : List Place :=
  [placeOf (s.cache.partPath s.settings.version), placeOf (s.cache.path s.settings.version)]

/-- Files that a session left as they were, its cache aside. -/
structure Untouched (s : Session) (t next : Tree) : Prop where
  cached : Altered s.cache.folder s.snapshotPlaces t next
  named : Settings.isAbsent s.settings.source = false → next = t
  /-- Nothing in the output folder is new, gone or different, unless the cache lies there. -/
  output : ∀ q, placeOf s.folder <+: q → q ∉ s.snapshotPlaces → ¬ OnTheWay s.cache.folder q →
    next.find? q = t.find? q

theorem untouched_generate (s : Session) (network : Web.Network) (t : Tree) :
    Untouched s t (s.generate network t).files := by
  have haltered : Altered s.cache.folder s.snapshotPlaces t (s.generate network t).files := by
    rcases s.files_generate network t with heq | heq
    · rw [heq]
      exact .refl _ _ t
    · rw [heq]
      exact s.altered_snapshot network t
  refine ⟨haltered, fun hsource => ?_, fun q _ hq hway => haltered.find?_eq hq hway⟩
  rcases s.files_generate network t with heq | heq
  · exact heq
  · rw [heq, snapshot_of_source hsource]

/-- Settings that are not complete lead to no request and to no change of files. A session that
fails otherwise than by its output leaves everything but its cache as it was. -/
theorem untouched_of_failure (settings : Settings) (overrides : List (Text × Option Text))
    (network : Web.Network) (t : Tree) :
    (∀ m, start settings overrides = .error m → ∀ verbose,
      (CommandLine.generate verbose settings network t).requests = [] ∧
        (CommandLine.generate verbose settings network t).files = t) ∧
    ∀ s e, start settings overrides = .ok s → (s.save network t).value = .error e →
      (∀ fault, e ≠ .output fault) → Untouched s t (s.save network t).files := by
  constructor
  · intro m hstart verbose
    have hnone : start settings [] = .error m := by
      unfold start at hstart ⊢
      split at hstart
      · exact hstart
      · cases hstart
    unfold CommandLine.generate
    rw [hnone]
    exact ⟨rfl, rfl⟩
  · intro s e _ hsave hinput
    rw [(generate_of_save_error hsave hinput).2]
    exact s.untouched_generate network t

theorem cleaned_thing : Settings.cleaned ["Thing".toList] = ["Thing".toList] := rfl

def renewal (cacheFolder : Text) : Settings where
  schemas := ["Thing".toList]
  schemas_clean := cleaned_thing
  package := some "library".toList
  folder := some "out".toList
  version := "1".toList
  removeOld := true
  cacheFolder
  pattern := "http://x.org/{version}.json".toList

def emptyFiles : Web.Network := fun _ => .answer 200 [] none

def oldPackage : Tree := ⟨[(["out".toList], .folder), (["out".toList, "old.py".toList], .file [])]⟩

def unavailable? {α : Type} : Except Failure α → Option Snapshot.Unavailable
  | .ok _ => none
  | .error f => f.unavailable?

theorem exists_of_unavailable? {α : Type} {value : Except Failure α}
    (h : (unavailable? value).isSome) :
    ∃ e, value = .error e ∧ e.unavailable?.isSome ∧ ∀ fault, e ≠ .output fault := by
  cases value with
  | ok _ => cases h
  | error e =>
    refine ⟨e, rfl, h, ?_⟩
    rintro fault rfl
    cases h

theorem untouched_of_failure_renewal :
    ∃ s e, start (renewal "cache".toList) [] = .ok s ∧
      (s.save emptyFiles oldPackage).value = .error e ∧ (∀ fault, e ≠ .output fault) ∧
      Untouched s oldPackage (s.save emptyFiles oldPackage).files ∧
      (s.save emptyFiles oldPackage).files.find? ["out".toList, "old.py".toList] =
        some (.file []) := by
  let s : Session := { settings := renewal "cache".toList }
  have hsave : (unavailable? (s.save emptyFiles oldPackage).value).isSome := by decide +kernel
  obtain ⟨e, he, -, hinput⟩ := exists_of_unavailable? hsave
  have huntouched := (untouched_of_failure (renewal "cache".toList) [] emptyFiles oldPackage).2
    s e rfl he hinput
  refine ⟨s, e, rfl, he, hinput, huntouched, ?_⟩
  have hplace : ["out".toList, "old.py".toList] ∉ s.snapshotPlaces := by decide +kernel
  rw [huntouched.cached.file_iff hplace]
  decide

/-- A cache in the output folder is filled there, also by a generation that fails. -/
theorem exists_output_touched :
    ∃ settings s e network t q, settings.removeOld = true ∧ start settings [] = .ok s ∧
      (s.save network t).value = .error e ∧ e.unavailable?.isSome ∧
      placeOf s.folder <+: q ∧ t.find? q = none ∧ (s.save network t).files.find? q ≠ none := by
  let s : Session := { settings := renewal "out/cache".toList }
  have hsave : (unavailable? (s.save emptyFiles oldPackage).value).isSome := by decide +kernel
  obtain ⟨e, he, hunavailable, -⟩ := exists_of_unavailable? hsave
  refine ⟨renewal "out/cache".toList, s, e, emptyFiles, oldPackage,
    ["out".toList, "cache".toList], rfl, rfl, he, hunavailable, ?_, ?_, ?_⟩
  · exact ⟨["cache".toList], by decide⟩
  · decide
  · decide +kernel

end VocabBindings.Session
