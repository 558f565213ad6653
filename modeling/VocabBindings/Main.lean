import VocabBindings.CommandLine.Run

/-!
The program: it takes in what lies below the working folder, runs the command line on it, and puts
back what the run changed. It downloads nothing, so a snapshot has to be a file there.
-/

set_option autoImplicit false

namespace VocabBindings.Program

/-- The tree with some directory entries at a place, and everything below them. Links are left
out. -/
partial def takeIn (place : Files.Place) (t : Files.Tree) (entries : Array IO.FS.DirEntry) :
    IO Files.Tree := do
  let mut t := t
  for entry in entries do
    let here := place ++ [entry.fileName.toList]
    match (← entry.path.symlinkMetadata).type with
    | .dir => t ← takeIn here (t.put here .folder) (← entry.path.readDir)
    | .file => t := t.put here (.file (← IO.FS.readBinFile entry.path).toList)
    | _ => pure ()
  return t

def pathOf (place : Files.Place) : String := String.ofList (Text.joined ['/'] place)

def putBack (before after : Files.Tree) : IO Unit := do
  for (place, node) in before.nodes do
    if (after.find? place).isNone && node ≠ .folder then IO.FS.removeFile (pathOf place)
  for (place, node) in after.nodes do
    if before.find? place ≠ some node then
      match node with
      | .folder => IO.FS.createDirAll (pathOf place)
      | .file bytes => IO.FS.writeBinFile (pathOf place) (ByteArray.mk bytes.toArray)

def noNetwork : Web.Network := fun _ => .failure "the network is not used".toList

def cacheFolder : IO Text := do
  let home := (← IO.getEnv "HOME").getD ""
  return defaultCacheFolder home.toList ((← IO.getEnv "XDG_CACHE_HOME").map String.toList)

def report : CommandLine.Ending → IO UInt32
  | .usage => return CommandLine.usageCode.toUInt32
  | .failed _ => return 1
  | .finished code output errors => do
    IO.print (String.ofList output)
    IO.eprint (String.ofList errors)
    return code.toUInt32

def run (arguments : List String) : IO UInt32 := do
  let before ← takeIn [] .empty (← (← IO.currentDir).readDir)
  let result := CommandLine.run (← cacheFolder) (arguments.map String.toList) noNetwork before
  putBack before result.files
  IO.eprint (String.ofList (CommandLine.linesOf result.log))
  report result.ending

end VocabBindings.Program

def main (arguments : List String) : IO UInt32 := VocabBindings.Program.run arguments
