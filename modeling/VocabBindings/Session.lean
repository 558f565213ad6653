import VocabBindings.Module.Output
import VocabBindings.Resolve.Run
import VocabBindings.Settings
import VocabBindings.Snapshot.Cache
import VocabBindings.Snapshot.Read

/-!
Sessions. A session goes from a vocabulary snapshot to the files of a package, step by step. It
keeps the entries it loaded last and the result it resolved last, and each step does what is still
missing before it. A step that fails keeps what was done before its failure.
-/

set_option autoImplicit false

namespace VocabBindings

/-- A session: complete settings, the overrides of value types, the entries that were loaded last,
and the result that was resolved last. -/
structure Session where
  settings : Settings
  overrides : List (Text × Option Text) := []
  entries : List Entry := []
  result : Option Resolution := none

inductive Failure where
  | fetch (e : Snapshot.FetchError)
  | read (path : Text) (e : Snapshot.ReadError)
  | resolution (e : ResolutionError)
  | noOutline (name : Text)
  | output (e : Files.FileError)

/-- What a step came to: its value or a failure, the session and the files after it, the addresses
it requested, and its notes. -/
structure Outcome (α : Type) where
  value : Except Failure α
  session : Session
  files : Files.Tree
  requests : List Text := []
  notes : List Note := []

namespace Outcome

variable {α β : Type}

/-- The outcome of a step and of one that goes on with its value. After a failure nothing goes
on. -/
def andThen (first : Outcome α) (next : Session → Files.Tree → α → Outcome β) : Outcome β :=
  match first.value with
  | .error e => { first with value := .error e }
  | .ok value =>
    let rest := next first.session first.files value
    { rest with
      requests := first.requests ++ rest.requests
      notes := first.notes ++ rest.notes }

end Outcome

namespace Session

def start (settings : Settings) (overrides : List (Text × Option Text)) :
    Except MissingSettings Session :=
  match settings.fault? with
  | some fault => .error fault
  | none => .ok { settings, overrides }

def package (s : Session) : Text := s.settings.package.getD []

def folder (s : Session) : Text := s.settings.folder.getD []

def cache (s : Session) : Snapshot.Cache := ⟨s.settings.cacheFolder, s.settings.pattern⟩

/-- The path of the snapshot: the source that is set, or else a file of the cache. -/
def snapshot (s : Session) (network : Web.Network) (files : Files.Tree) : Outcome Text :=
  if Settings.isAbsent s.settings.source then
    let fetched := s.cache.fetch network files s.settings.version
    { value := fetched.outcome.mapError .fetch, session := s, files := fetched.files
      requests := fetched.requests, notes := fetched.notes }
  else { value := .ok (s.settings.source.getD []), session := s, files }

def loadingNote (entries : List Entry) : Note :=
  .debug ("[schema_to_python]: ".toList ++ Text.ofNat entries.length ++
    " ontology entries loaded".toList)

def readEntries (s : Session) (files : Files.Tree) (path : Text) : Outcome (List Entry) :=
  match Snapshot.read Name.vocabularyNamespaces files path with
  | .error e =>
    { value := .error (.read path e), session := s, files, notes := [Snapshot.readingNote path] }
  | .ok entries =>
    { value := .ok entries, session := { s with entries }, files
      notes := [Snapshot.readingNote path, loadingNote entries] }

def load (s : Session) (network : Web.Network) (files : Files.Tree) : Outcome (List Entry) :=
  (s.snapshot network files).andThen readEntries

def resolveLoaded (s : Session) (files : Files.Tree) : Outcome Resolution :=
  let naming : TypeNaming := { overrides := s.overrides }
  let notes := (resolutionNotes s.entries s.settings.schemas naming).map Note.debug
  match resolveClasses s.entries s.settings.schemas naming with
  | .error e => { value := .error (.resolution e), session := s, files, notes }
  | .ok (result, _) =>
    { value := .ok result, session := { s with result := some result }, files, notes }

/-- Resolves the requested classes. Entries are loaded if there are none. -/
def resolve (s : Session) (network : Web.Network) (files : Files.Tree) : Outcome Resolution :=
  if s.entries = [] then
    (s.load network files).andThen fun s files _ => s.resolveLoaded files
  else s.resolveLoaded files

def render (s : Session) (files : Files.Tree) (result : Resolution) :
    Outcome (List (Text × Text)) :=
  { value := (Module.packageFiles { package := s.package } result).mapError .noOutline
    session := s, files }

/-- The files of the package for the result that was resolved last, or else for a new one. -/
def generate (s : Session) (network : Web.Network) (files : Files.Tree) :
    Outcome (List (Text × Text)) :=
  match s.result with
  | some result => s.render files result
  | none => (s.resolve network files).andThen render

/-- What is noted when the modules of a result are written: one note for each trait and one for each
requested class. -/
def writingNotes (package : Text) (result : Resolution) : List Note :=
  (result.classes.map fun c =>
    .info ("[T] Generating ".toList ++ package ++ ".traits.".toList ++ c.traitName)) ++
  (result.requested.filterMap result.class?).map fun c =>
    .info ("[C] Generating ".toList ++ package ++ ".".toList ++ c.className)

def prepare (s : Session) (files : Files.Tree) : Outcome (List Text) :=
  let prepared := Module.prepare files s.folder s.settings.removeOld
  { value := prepared.outcome.mapError .output, session := s, files := prepared.files
    notes := prepared.notes }

def write (s : Session) (files : Files.Tree) (modules : List (Text × Text)) : Outcome (List Text) :=
  let notes := (s.result.map (writingNotes s.package)).getD []
  match Module.writeFiles files s.folder modules with
  | (files, outcome) => { value := outcome.mapError .output, session := s, files, notes }

def save (s : Session) (network : Web.Network) (files : Files.Tree) : Outcome (List Text) :=
  (s.generate network files).andThen fun s files modules =>
    (s.prepare files).andThen fun s files _ => s.write files modules

end Session

def Failure.unavailable? : Failure → Option Snapshot.Unavailable
  | .fetch (.unavailable u) => some u
  | .read path e => e.unavailable? path
  | _ => none

end VocabBindings
