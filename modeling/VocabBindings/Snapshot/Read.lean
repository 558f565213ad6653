import VocabBindings.Files.Message
import VocabBindings.Json.Reader
import VocabBindings.Note
import VocabBindings.Rdf.NTriples
import VocabBindings.Rdf.Turtle.Reader
import VocabBindings.Snapshot.JsonLd
import VocabBindings.Snapshot.Rdfs
import VocabBindings.Snapshot.Unavailable
import VocabBindings.Text.Lines
import VocabBindings.Text.Lowercase
import VocabBindings.Web.DataAddress

/-!
Reading snapshot files. The end of a path says how the file is written, letter case aside; without a
known end it is taken for Turtle. A path with no file may be an address that holds its data.

Documents are read in JSON, and graphs in N-Triples, Turtle and Notation 3. An end that names
another language for graphs (`.rdf`, `.owl`, `.xml`, `.trig`, `.nq`, `.trix`, `.json-ld`) counts as
unknown here, and an address of something that lies elsewhere as a missing file.
-/

set_option autoImplicit false

namespace VocabBindings.Snapshot

inductive Format where
  | jsonLd
  | nTriples
  | turtle
  | n3
  | unknown
  deriving DecidableEq

/-- The end of a path behind the last dot of its last name. Dots at the start of the name do not
count, but a path that starts with a dot is an end itself if it has no other one. -/
def extension (path : Text) : Text :=
  let name := (path.reverse.takeWhile (· ≠ '/')).reverse
  match Text.splitLast '.' (name.dropWhile (· = '.')) with
  | (some _, tail) => tail
  | (none, _) => if path.head? = some '.' then path.drop 1 else []

def formatNamed (name : Text) : Format :=
  if name = "nt".toList then .nTriples
  else if name = "ttl".toList then .turtle
  else if name = "n3".toList then .n3
  else .unknown

def format (path : Text) : Format :=
  let lowered := Text.lower path
  if Text.endsWith ".json".toList lowered || Text.endsWith ".jsonld".toList lowered then .jsonLd
  else
    match formatNamed (Text.lower (extension path)) with
    | .unknown => formatNamed lowered
    | known => known

def formatOfMedia (mediaType : Text) : Format :=
  if mediaType = "application/n-triples".toList then .nTriples
  else if mediaType = "text/turtle".toList then .turtle
  else if mediaType = "text/n3".toList then .n3
  else .unknown

/-- What a path holds itself if it is an address that holds its data, and how they are written. The
end of the path says so before the media type does, and a JSON file is always looked for. -/
def heldAt? (path : Text) : Option (Format × Bytes) :=
  match format path, Web.contentOf? path with
  | .jsonLd, _ => none
  | _, none => none
  | .unknown, some content =>
    match formatOfMedia content.mediaType with
    | .unknown => none
    | known => some (known, content.bytes)
  | known, some content => some (known, content.bytes)

/-- The bytes that a path leads to, and how they are written. A file comes before an address. -/
def bytesAt (files : Files.Tree) (path : Text) : Except Files.FileError (Format × Bytes) :=
  match files.read path with
  | .ok bytes => .ok (format path, bytes)
  | .error e =>
    if files.hasNode path then .error e
    else
      match heldAt? path with
      | none => .error e
      | some held => .ok held

inductive ReadError where
  | file (e : Files.FileError)
  | encoding (e : Text.DecodeError)
  | json (t : Text) (e : Json.ReadError)
  | graph (format : Format) (fault : Rdf.Fault)
  | node (e : JsonLd.NodeError)

def entriesOfGraph (namespaces : List Text) (format : Format)
    (reading : Except Rdf.Fault Rdf.Graph) : Except ReadError (List Entry) :=
  match reading with
  | .error fault => .error (.graph format fault)
  | .ok g => .ok (g.entries namespaces)

def entriesOfDocument (namespaces : List Text) (t : Text) : Except ReadError (List Entry) :=
  match Json.read t with
  | .error e => .error (.json t e)
  | .ok document => (JsonLd.entries namespaces document).mapError .node

def entriesOf (namespaces : List Text) (format : Format) (bytes : Bytes) :
    Except ReadError (List Entry) :=
  match format, Text.decode bytes with
  | .nTriples, _ => entriesOfGraph namespaces .nTriples (Rdf.NTriples.read bytes)
  | _, .error e => .error (.encoding e)
  | .jsonLd, .ok t => entriesOfDocument namespaces (Text.withLineFeeds t)
  | .n3, .ok t => entriesOfGraph namespaces .n3 (Rdf.Turtle.read .n3 t)
  | format, .ok t => entriesOfGraph namespaces format (Rdf.Turtle.read .turtle t)

def read (namespaces : List Text) (files : Files.Tree) (path : Text) :
    Except ReadError (List Entry) :=
  match bytesAt files path with
  | .error e => .error (.file e)
  | .ok (format, bytes) => entriesOf namespaces format bytes

def readingNote (path : Text) : Note := .debug ("[snapshot_reader]: reading ".toList ++ path)

/-- The reason that an error in a file gives. The words for one in a JSON file are settled. -/
def fileReason (path : Text) (e : Files.FileError) : Reason :=
  if format path ≠ .jsonLd then .silent
  else if e.fault = .nullCharacter then .incidental e.message
  else .settled e.message

def encodingReason (path : Text) (e : Text.DecodeError) : Reason :=
  if format path ≠ .jsonLd then .silent else .settled e.message

def jsonReason (t : Text) (e : Json.ReadError) : Reason :=
  match e.fault with
  | .integerTooLong _ => .incidental (e.message t)
  | _ => .settled (e.message t)

/-- Whether a fault of a graph makes its file unavailable. A value that there is not always does; a
text that is not formed like a graph does if the end of its path names Turtle. -/
def spoils (format : Format) (fault : Rdf.Fault) : Bool :=
  match fault with
  | .noValue => true
  | .encoding => true
  | .malformed => format = .turtle || format = .n3
  | _ => false

/-- The unavailable snapshot that an error makes of a file. A node that is no entry is not about the
file as a whole, and neither is a text of unknown format that is no Turtle. A text that is nested
too deeply says nothing about the file. -/
def ReadError.unavailable? (path : Text) : ReadError → Option Unavailable
  | .file e => some ⟨path, fileReason path e⟩
  | .encoding e => some ⟨path, encodingReason path e⟩
  | .json t e => if e.fault = .nestedTooDeep then none else some ⟨path, jsonReason t e⟩
  | .graph format fault => if spoils format fault then some ⟨path, .silent⟩ else none
  | .node _ => none

end VocabBindings.Snapshot
