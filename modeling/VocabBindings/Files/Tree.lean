import VocabBindings.Files.Path
import VocabBindings.Keyed
import VocabBindings.Text.Utf8

/-!
File trees. A tree holds what lies below the working folder, keyed by the names on the way to it. A
path is resolved name by name, and every name but the last has to be a folder.

An operation is done as a whole or not at all: one that fails leaves the tree as it was. Failures in
the middle of a write, as on a full disk or beyond a quota, lie outside this model, and so do links,
permissions and what other programs do meanwhile.
-/

set_option autoImplicit false

namespace VocabBindings.Files

inductive Node where
  | file (bytes : Bytes)
  | folder
  deriving DecidableEq

abbrev Place := List Text

/-- The places below the working folder that hold something. -/
structure Tree where
  nodes : List (Place × Node)
  deriving DecidableEq

/-- Why an operation on files failed. No path holds a null character: such a text is not looked up
at all. -/
inductive Fault where
  | missing
  | present
  | notFolder
  | isFolder
  | nameTooLong
  | nullCharacter
  deriving DecidableEq

structure FileError where
  fault : Fault
  path : Text
  target : Option Text := none
  deriving DecidableEq

def nameLimit : Nat := 255

def pathLimit : Nat := 4096

namespace Tree

def empty : Tree := ⟨[]⟩

def find? (t : Tree) (place : Place) : Option Node :=
  if place = [] then some .folder else Keyed.get? place t.nodes

def put (t : Tree) (place : Place) (node : Node) : Tree := ⟨Keyed.put place node t.nodes⟩

def erase (t : Tree) (place : Place) : Tree := ⟨Keyed.erase place t.nodes⟩

def walk (t : Tree) : Place → List Text → Except Fault Place
  | place, [] => .ok place
  | place, name :: rest =>
    if name = [] || name = ['.'] then walk t place rest
    else if name = "..".toList then walk t place.dropLast rest
    else if nameLimit < (Text.encode name).length then .error .nameTooLong
    else
      match t.find? (place ++ [name]) with
      | none => .error .missing
      | some (.file _) => .error .notFolder
      | some .folder => walk t (place ++ [name]) rest

/-- The place of a path. Only what is before its last name has to be there. -/
def locate (t : Tree) (path : Text) : Except Fault Place :=
  let names := Text.pieces '/' (withoutEndSlashes path)
  let last := lastName path
  if path = [] then .error .missing
  else if path.contains '\x00' then .error .nullCharacter
  else if pathLimit ≤ (Text.encode path).length then .error .nameTooLong
  else if last = [] || last = ['.'] || last = "..".toList then t.walk [] names
  else
    match t.walk [] names.dropLast with
    | .error fault => .error fault
    | .ok folder =>
      if nameLimit < (Text.encode last).length then .error .nameTooLong else .ok (folder ++ [last])

/-- What lies at a path. A path with a slash at its end leads to folders only. -/
def look (t : Tree) (path : Text) : Except Fault Node :=
  match t.locate path with
  | .error fault => .error fault
  | .ok place =>
    match t.find? place with
    | none => .error .missing
    | some .folder => .ok .folder
    | some (.file bytes) =>
      if path.getLast? = some '/' then .error .notFolder else .ok (.file bytes)

def hasNode (t : Tree) (path : Text) : Bool := (t.look path).isOk

def hasFile (t : Tree) (path : Text) : Bool :=
  match t.look path with
  | .ok (.file _) => true
  | _ => false

def hasFolder (t : Tree) (path : Text) : Bool :=
  match t.look path with
  | .ok .folder => true
  | _ => false

def read (t : Tree) (path : Text) : Except FileError Bytes :=
  match t.look path with
  | .error fault => .error { fault, path }
  | .ok .folder => .error { fault := .isFolder, path }
  | .ok (.file bytes) => .ok bytes

def write (t : Tree) (path : Text) (bytes : Bytes) : Except FileError Tree :=
  match t.locate path with
  | .error fault => .error { fault, path }
  | .ok place =>
    if path.getLast? = some '/' || t.find? place = some .folder then
      .error { fault := .isFolder, path }
    else .ok (t.put place (.file bytes))

def remove (t : Tree) (path : Text) : Except FileError Tree :=
  match t.locate path, t.look path with
  | .error fault, _ => .error { fault, path }
  | .ok _, .error fault => .error { fault, path }
  | .ok _, .ok .folder => .error { fault := .isFolder, path }
  | .ok place, .ok (.file _) => .ok (t.erase place)

def move (t : Tree) (path target : Text) : Except FileError Tree :=
  match t.locate path, t.look path, t.locate target with
  | .ok place, .ok (.file bytes), .ok goal =>
    if t.find? goal = some .folder then .error { fault := .isFolder, path, target }
    else .ok ((t.erase place).put goal (.file bytes))
  | .ok _, .ok .folder, _ => .error { fault := .isFolder, path, target }
  | .error fault, _, _ => .error { fault, path, target }
  | _, .error fault, _ => .error { fault, path, target }
  | _, _, .error fault => .error { fault, path, target }

def makeFolder (t : Tree) (path : Text) : Except FileError Tree :=
  match t.locate path with
  | .error fault => .error { fault, path }
  | .ok place =>
    if (t.find? place).isSome then .error { fault := .present, path }
    else .ok (t.put place .folder)

def ensureFolder (t : Tree) (path : Text) : Except FileError Tree :=
  match t.makeFolder path with
  | .ok next => .ok next
  | .error e => if t.hasFolder path then .ok t else .error e

/-- Makes the folders around a path, the outermost first, and then the last one. One that is named
by a dot is there with the one before it. That something else lies where a folder should be counts
only for the last path. -/
def makeChain (t : Tree) (last : Text) : List Text → Tree × Option FileError
  | [] =>
    if lastName last = ['.'] then (t, none)
    else
      match t.ensureFolder last with
      | .ok next => (next, none)
      | .error e => (t, some e)
  | path :: rest =>
    if lastName path = ['.'] then t.makeChain last rest
    else
      match t.ensureFolder path with
      | .ok next => next.makeChain last rest
      | .error e => if e.fault = .present then t.makeChain last rest else (t, some e)

def missingFolders (t : Tree) (path : Text) : List Text :=
  ((foldersAround path).reverse.takeWhile fun folder => !t.hasNode folder).reverse

/-- Makes a folder with all folders around it. Those made before an error stay. -/
def makeFolders (t : Tree) (path : Text) : Tree × Option FileError :=
  match t.missingFolders path with
  | [] =>
    match t.ensureFolder path with
    | .ok next => (next, none)
    | .error e => (t, some e)
  | first :: rest =>
    match t.ensureFolder first with
    | .ok next => next.makeChain path rest
    | .error e => if e.fault = .present then t.makeChain path rest else (t, some e)

def namesIn (t : Tree) (place : Place) : List (Text × Node) :=
  t.nodes.filterMap fun (p, node) =>
    match p.getLast? with
    | some name => if p.dropLast = place then some (name, node) else none
    | none => none

def listing (t : Tree) : List (Text × Option Bytes) :=
  (t.nodes.map fun (place, node) =>
    let path := Text.joined ['/'] place
    match node with
    | .file bytes => (path, some bytes)
    | .folder => (path ++ ['/'], none)).mergeSort fun a b => Text.atMost a.1 b.1

end Tree

def Fault.text : Fault → Text
  | missing => "[Errno 2] No such file or directory".toList
  | present => "[Errno 17] File exists".toList
  | notFolder => "[Errno 20] Not a directory".toList
  | isFolder => "[Errno 21] Is a directory".toList
  | nameTooLong => "[Errno 36] File name too long".toList
  | nullCharacter => "embedded null byte".toList

end VocabBindings.Files
