import BacklogTrace.FileSystem.Build
import BacklogTrace.Run

/-!
Contract: the command line of the program.

The tree in which a run takes place is named on standard input, one path a line,
as a listing of files prints them. What is there is read before the run, and
what the run has written is written after it; the run itself is `run`.

Owns: `main`.

Does not own: any decision about what is scanned, said or written.
-/

namespace BacklogTrace.Main

partial def readLines (stream : IO.FS.Stream) : IO (List String) := do
  let line ← stream.getLine
  if line.isEmpty then
    return []
  else
    return line.trimAsciiEnd.toString :: (← readLines stream)

/-- Whether a path leads to a directory: only then can it be followed by a
dot. -/
def isDirectory (path : String) : IO Bool := do
  try
    let _ ← IO.FS.realPath (path ++ "/.")
    return true
  catch _ =>
    return false

/-- The path without links to which a path leads, if there is one. -/
def realPath? (path : String) : IO (Option String) := do
  try
    return some (toString (← IO.FS.realPath path))
  catch _ =>
    return none

/-- Why something failed, in the words of the system. -/
def reasonOf : IO.Error → Text
  | .permissionDenied _ code details | .hardwareFault code details
  | .resourceExhausted _ code details | .otherError code details =>
      details.toList ++ " (os error ".toList ++ Text.ofNat code.toNat ++ ")".toList
  | other => other.toString.toList

/-- What is at the path of a regular file. It is opened for writing and not
written. -/
def readFile (path : String) : IO Node := do
  let isWritable ←
    try
      let _ ← IO.FS.Handle.mk path .readWrite
      pure true
    catch _ =>
      pure false
  try
    let content ← IO.FS.readBinFile path
    return .regular ⟨content.toList, none, isWritable⟩
  catch failure =>
    return .regular ⟨[], some (reasonOf failure), isWritable⟩

/-- What is at a name in a directory. A link is kept as the path to which it
leads. -/
def readNode? (path directory name : String) : IO (Option Node) := do
  match ← realPath? path, ← realPath? directory with
  | some real, some parent =>
      if real != parent ++ "/" ++ name && parent != "/" then
        return some (.link (.ofText real.toList))
      else if ← isDirectory path then
        return some .directory
      else
        return some (← readFile path)
  | _, _ => return none

def stringOf (bytes : Bytes) : String :=
  String.ofList (Utf8.decode bytes)

def addListed (fileSystem : FileSystem) (listed : String) : IO FileSystem := do
  let path := Path.ofText listed.toList
  match path.fileName? with
  | none => return fileSystem
  | some name =>
      let parent := path.parent?.getD ⟨[]⟩
      let directory := if parent.spelling.isEmpty then "." else stringOf parent.spelling
      match ← readNode? listed directory (stringOf name) with
      | none => return fileSystem
      | some .directory => return fileSystem.makeDirectories path
      | some node => return fileSystem.addEntry path node

def workingPlace : IO Place := do
  let path := Path.ofText (toString (← IO.FS.realPath ".")).toList
  return path.components.filterMap fun component =>
    match component with
    | .named name => some name
    | .top | .here | .up => none

/-- Writes the files that are in one file system and not in another. -/
def writeChanges (before after : FileSystem) : IO Unit := do
  for entry in after.entries do
    if !before.entries.contains entry then
      match entry.2 with
      | .regular file =>
          IO.FS.writeBinFile (stringOf (Walk.pathOfPlace entry.1).spelling)
            (ByteArray.mk file.content.toArray)
      | .directory | .link _ => pure ()

def wantsColour : IO Bool := do
  return (← IO.getEnv "FORCE_COLOR").isSome && (← IO.getEnv "NO_COLOR").isNone

end BacklogTrace.Main

open BacklogTrace in
/-- Runs a command line in the tree that is named on standard input. -/
def main (arguments : List String) : IO UInt32 := do
  let listed ← Main.readLines (← IO.getStdin)
  let empty := FileSystem.emptyAt (← Main.workingPlace)
  let before ← listed.foldlM Main.addListed empty
  let coloured ← Main.wantsColour
  match run before coloured (arguments.map fun argument => Utf8.encode argument.toList) with
  | .refused _ =>
      IO.eprintln "error: the command line is not understood"
      return 2
  | .faulted _ =>
      IO.eprintln "error: a method name begins inside a character"
      return 101
  | .finished outcome =>
      Main.writeChanges before outcome.fileSystem
      IO.eprint (String.ofList outcome.log)
      IO.print (String.ofList outcome.output)
      return outcome.exitCode.toUInt32
