import VocabBindings.Files.Message
import VocabBindings.Note
import VocabBindings.Snapshot.Unavailable
import VocabBindings.Snapshot.UrlPattern
import VocabBindings.Web.Download

/-!
The cache of snapshots. A version is downloaded once and kept in a file of its own; it is written
next to its place first and moved there when it is complete. That what lies next to the place is a
whole body, if it is there at all, rests on the writes of a tree, which are never cut short.
-/

set_option autoImplicit false

namespace VocabBindings.Snapshot

/-- A folder with the snapshots that were downloaded, and the pattern for their addresses. -/
structure Cache where
  folder : Text
  pattern : Text := publishedPattern
  deriving DecidableEq

inductive FetchError where
  | unavailable (u : Unavailable)
  | badPattern (e : PatternError)
  | download (e : Web.DownloadError)
  | noPath
  deriving DecidableEq

/-- What a fetch brought: the path of the snapshot or an error, the files after it, the addresses
that were requested, and its notes. -/
structure Fetched where
  outcome : Except FetchError Text
  files : Files.Tree
  requests : List Text := []
  notes : List Note := []

namespace Cache

def path (c : Cache) (version : Text) : Text :=
  Files.join c.folder ("schemas-".toList ++ version ++ ".jsonld".toList)

/-- Keeps a snapshot at a path. What is done before an error stays. -/
def keep (c : Cache) (files : Files.Tree) (path : Text) (body : Bytes) :
    Files.Tree × Option Files.FileError :=
  let part := path ++ ".part".toList
  match files.makeFolders c.folder with
  | (files, some e) => (files, some e)
  | (files, none) =>
    match files.write part body with
    | .error e => (files, some e)
    | .ok written =>
      match written.move part path with
      | .error e => (written, some e)
      | .ok moved => (moved, none)

/-- What is wrong when a download fails. An address that is none says nothing about the snapshot. -/
def downloadError (address : Text) : Web.DownloadError → FetchError
  | .badLocation fault =>
    .unavailable
      ⟨address, .settled ("Invalid URL in location header: ".toList ++ fault.message ++ ['.'])⟩
  | .transport reason => .unavailable ⟨address, .settled reason⟩
  | .endless => .unavailable ⟨address, .incidental "Exceeded maximum allowed redirects.".toList⟩
  | .refused => .unavailable ⟨address, .silent⟩
  | e => .download e

def keepError (path : Text) (e : Files.FileError) : FetchError :=
  if e.fault = .nullCharacter then .noPath else .unavailable ⟨path, .settled e.message⟩

/-- The path of the snapshot of a version, which is downloaded unless it is there. -/
def fetch (c : Cache) (network : Web.Network) (files : Files.Tree) (version : Text) : Fetched :=
  let path := c.path version
  if files.hasFile path then
    { outcome := .ok path, files
      notes := [.debug ("[snapshot]: using cached snapshot ".toList ++ path)] }
  else
    match address c.pattern version with
    | .error e => { outcome := .error (.badPattern e), files }
    | .ok address =>
      let download := Web.download network address
      let notes := [.info ("[snapshot]: downloading ".toList ++ address)]
      match download.outcome with
      | .error e =>
        { outcome := .error (downloadError address e), files, requests := download.requests, notes }
      | .ok body =>
        match c.keep files path body with
        | (files, some e) =>
          { outcome := .error (keepError path e), files
            requests := download.requests, notes }
        | (files, none) =>
          { outcome := .ok path, files, requests := download.requests, notes }

end Cache

end VocabBindings.Snapshot
