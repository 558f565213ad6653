import VocabBindings.Files.Pattern
import VocabBindings.Module.Package
import VocabBindings.Note

/-!
The output folder of a package. It is prepared first, old modules removed on demand, and then the
files of the package are written. What is done before an error stays.
-/

set_option autoImplicit false

namespace VocabBindings.Module

def traitFolderIn (folder : Text) : Text := Files.join folder traitFolder

/-- The path pattern of the modules in a folder. The folder counts as a pattern too. -/
def modulePattern (folder : Text) : Text := Files.join folder "*.py".toList

def removeAll (files : Files.Tree) :
    List Text → Files.Tree × Except Files.FileError (List Text)
  | [] => (files, .ok [])
  | path :: rest =>
    match files.remove path with
    | .error e => (files, .error e)
    | .ok next =>
      let (final, outcome) := removeAll next rest
      (final, outcome.map (path :: ·))

def removeModules (files : Files.Tree) :
    List Text → Files.Tree × Except Files.FileError (List Text)
  | [] => (files, .ok [])
  | folder :: rest =>
    match removeAll files (files.glob (modulePattern folder)) with
    | (files, .error e) => (files, .error e)
    | (files, .ok removed) =>
      let (final, outcome) := removeModules files rest
      (final, outcome.map (removed ++ ·))

def removalNote (removed : List Text) : Note :=
  .debug ("[writer]: removed ".toList ++ Text.ofNat removed.length ++ " old files".toList)

structure Prepared where
  files : Files.Tree
  outcome : Except Files.FileError (List Text)
  notes : List Note := []

def prepare (files : Files.Tree) (folder : Text) (removeOld : Bool) : Prepared :=
  match files.makeFolders (traitFolderIn folder) with
  | (files, some e) => { files, outcome := .error e }
  | (files, none) =>
    if removeOld then
      match removeModules files [folder, traitFolderIn folder] with
      | (files, .error e) => { files, outcome := .error e }
      | (files, .ok removed) =>
        { files, outcome := .ok removed, notes := [removalNote removed] }
    else { files, outcome := .ok [] }

def writeFile (files : Files.Tree) (path content : Text) :
    Files.Tree × Option Files.FileError :=
  match files.makeFolders (Files.folderOf path) with
  | (files, some e) => (files, some e)
  | (files, none) =>
    match files.write path (Text.encode content) with
    | .error e => (files, some e)
    | .ok written => (written, none)

def writeFiles (files : Files.Tree) (folder : Text) :
    List (Text × Text) → Files.Tree × Except Files.FileError (List Text)
  | [] => (files, .ok [])
  | (name, content) :: rest =>
    let path := Files.join folder name
    match writeFile files path content with
    | (files, some e) => (files, .error e)
    | (files, none) =>
      let (final, outcome) := writeFiles files folder rest
      (final, outcome.map (path :: ·))

end VocabBindings.Module
