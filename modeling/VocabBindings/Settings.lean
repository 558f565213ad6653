import VocabBindings.Files.Path
import VocabBindings.Snapshot.UrlPattern
import VocabBindings.Text.Blank

/-!
The settings of a run, and what they take by default.
-/

set_option autoImplicit false

namespace VocabBindings

namespace Settings

/-- The names of a list, trimmed, without those of which nothing is left. -/
def cleaned (names : List Text) : List Text := (names.map Text.trim).filter (· ≠ [])

def namesIn (lists : List Text) : List Text := cleaned (lists.flatMap (Text.pieces ','))

variable {names : List Text} {name : Text}

theorem isTrimmed_of_mem_cleaned (h : name ∈ cleaned names) :
    name ≠ [] ∧ Text.IsTrimmed name := by
  rw [cleaned, List.mem_filter, List.mem_map] at h
  obtain ⟨⟨given, -, rfl⟩, hne⟩ := h
  exact ⟨of_decide_eq_true hne, Text.isTrimmed_trim given⟩

theorem cleaned_of_isTrimmed (h : ∀ name ∈ names, name ≠ [] ∧ Text.IsTrimmed name) :
    cleaned names = names := by
  have hmap : names.map Text.trim = names :=
    (List.map_congr_left fun name hm => Text.trim_of_isTrimmed (h name hm).2).trans
      (List.map_id names)
  rw [cleaned, hmap]
  exact List.filter_eq_self.mpr fun name hm => decide_eq_true (h name hm).1

theorem cleaned_cleaned (names : List Text) : cleaned (cleaned names) = cleaned names :=
  cleaned_of_isTrimmed fun _ => isTrimmed_of_mem_cleaned

theorem cleaned_namesIn (lists : List Text) : cleaned (namesIn lists) = namesIn lists :=
  cleaned_cleaned _

end Settings

/-- The settings of a run. The names of the requested classes are clean: they are trimmed, and none
is empty. -/
structure Settings where
  schemas : List Text := []
  package : Option Text := none
  folder : Option Text := none
  version : Text := "latest".toList
  removeOld : Bool := false
  cacheFolder : Text
  source : Option Text := none
  pattern : Text := Snapshot.publishedPattern
  schemas_clean : Settings.cleaned schemas = schemas := by
    first | exact Settings.cleaned_cleaned _ | rfl
  deriving DecidableEq

structure MissingSettings where
  names : List Text
  deriving DecidableEq

namespace Settings

theorem ne_nil_of_mem_schemas {s : Settings} {name : Text} (h : name ∈ s.schemas) : name ≠ [] := by
  rw [← s.schemas_clean] at h
  exact (isTrimmed_of_mem_cleaned h).1

def isAbsent (setting : Option Text) : Bool := setting.getD [] = []

def missing (s : Settings) : List Text :=
  (if s.schemas = [] then ["schemas".toList] else []) ++
    (if isAbsent s.package then ["namespace".toList] else []) ++
    if isAbsent s.folder then ["folder".toList] else []

def fault? (s : Settings) : Option MissingSettings :=
  if s.missing = [] then none else some ⟨s.missing⟩

end Settings

namespace Message

def missingSettings (names : List Text) : Text :=
  "Missing required generation option(s): ".toList ++ Text.joined ", ".toList names ++ ['.']

end Message

def MissingSettings.message (m : MissingSettings) : Text := Message.missingSettings m.names

def homeFolder (home : Text) : Text :=
  let stripped := Files.withoutEndSlashes home
  if stripped = [] then ['/'] else stripped

/-- The folder that snapshots are kept in by default: in the cache folder that is set, or else in
the hidden one at home. -/
def defaultCacheFolder (home : Text) (cacheHome : Option Text) : Text :=
  Files.join (cacheHome.getD (Files.join (homeFolder home) ".cache".toList)) "ontotraits".toList

end VocabBindings
