import BacklogTrace.FileSystem.Lookup

/-!
Contract: building a file system entry by entry.

An entry is given by a path, below the working directory unless it is absolute.
The directories that lead to it are made where they are missing; its last name
is where the entry is put, even if a link is there. Where it cannot be put, as
over a directory, nothing is changed.

Owns: `FileSystem.emptyAt`, `FileSystem.addEntry`.

Does not own: writing a file during a run (`FileSystem.write?`).
-/

namespace BacklogTrace.FileSystem

/-- Makes a directory in the working directory, and begins there. -/
def enter (fileSystem : FileSystem) (name : Bytes) : FileSystem :=
  let place := fileSystem.workingDirectory ++ [name]
  if fits : fileSystem.Fits place then
    { fileSystem.put place .directory fits with
      workingDirectory := place
      beginsInDirectory := node?_put_self .directory fits }
  else
    fileSystem

/-- Nothing but a working directory. -/
def emptyAt (workingDirectory : Place) : FileSystem :=
  workingDirectory.foldl enter { entries := [] }

/-- Makes the directory to which a path leads, unless something is there. -/
def makeDirectory (fileSystem : FileSystem) (path : Path) : FileSystem :=
  match fileSystem.locate path with
  | some (.vacant place) => (fileSystem.put? place .directory).getD fileSystem
  | some (.present _) | none => fileSystem

/-- Makes the directories of a path and of all paths that lead to it. -/
def makeDirectories (fileSystem : FileSystem) (path : Path) : FileSystem :=
  let segments := spelledSegments path
  (List.range segments.length).foldl
    (fun made count => made.makeDirectory ⟨Path.spell (segments.take (count + 1))⟩) fileSystem

def addEntry (fileSystem : FileSystem) (path : Path) (node : Node) : FileSystem :=
  match path.fileName? with
  | none => fileSystem
  | some name =>
      let parent := path.parent?.getD ⟨[]⟩
      let made := fileSystem.makeDirectories parent
      let directory :=
        if parent.spelling.isEmpty then some made.workingDirectory else made.place? parent
      match directory with
      | none => made
      | some place => (made.put? (place ++ [name]) node).getD made

end BacklogTrace.FileSystem
