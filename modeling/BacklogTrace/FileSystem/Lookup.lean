import BacklogTrace.FileSystem.Basic

/-!
Contract: where paths lead, and what can be done there.

A path is followed segment by segment from its beginning. Every segment needs a
directory to be looked up in, an idle one too, so a trailing slash admits only
directories. Two dots lead above the place that has been reached, not above the
name that was written. A link is replaced by its target, at most forty times.

Owns: `FileSystem.locate`, `pathExists`, `file?`, `isFile`, `read`, `read?`, `write?`.

Does not own: the order of a directory's entries, which nothing depends on.
-/

namespace BacklogTrace

/-- Where a path leads. -/
inductive Destination where
  /-- To something that exists. -/
  | present (place : Place)
  /-- To a name that its directory does not hold. -/
  | vacant (place : Place)
deriving DecidableEq, Repr

def Destination.place : Destination → Place
  | .present place | .vacant place => place

namespace FileSystem

/-- How often a path may lead through a link. -/
def linkLimit : Nat := 40

/-- How many bytes a name may have. -/
def nameLimit : Nat := 255

def startOf (path : Path) (directory : Place) : Place :=
  if path.isAbsolute then [] else directory

/-- The segments of a path as they are spelled, the beginning included. -/
def spelledSegments (path : Path) : List Bytes :=
  Sequence.splitOn Path.slash path.spelling

/-- How far a path can be followed without replacing a link. -/
inductive Progress where
  | arrived (destination : Destination)
  /-- A link was met: its target, followed by the rest, is to be followed from
  here. -/
  | detour (directory : Place) (segments : List Bytes)
deriving DecidableEq, Repr

/-- Follows segments from a place as far as no link is met. -/
def advance (fileSystem : FileSystem) : Place → List Bytes → Option Progress
  | place, [] => some (.arrived (.present place))
  | place, segment :: rest =>
      if fileSystem.node? place ≠ some .directory then
        none
      else if Path.isIdle segment then
        advance fileSystem place rest
      else if segment = [Path.dot, Path.dot] then
        advance fileSystem place.dropLast rest
      else
        match fileSystem.node? (place ++ [segment]) with
        | none => if rest.isEmpty then some (.arrived (.vacant (place ++ [segment]))) else none
        | some (.link target) =>
            some (.detour (startOf target place) (spelledSegments target ++ rest))
        | some _ => advance fileSystem (place ++ [segment]) rest

/-- Follows segments from a place, through a limited number of links. -/
def follow (fileSystem : FileSystem) : Nat → Place → List Bytes → Option Destination
  | links, place, segments =>
      match fileSystem.advance place segments with
      | none => none
      | some (.arrived destination) => some destination
      | some (.detour directory detour) =>
          match links with
          | 0 => none
          | links + 1 => follow fileSystem links directory detour

/-- Where a path leads. The empty path leads nowhere. -/
def locate (fileSystem : FileSystem) (path : Path) : Option Destination :=
  if path.spelling.isEmpty then
    none
  else
    fileSystem.follow linkLimit (startOf path fileSystem.workingDirectory)
      (spelledSegments path)

def place? (fileSystem : FileSystem) (path : Path) : Option Place :=
  match fileSystem.locate path with
  | some (.present place) => some place
  | some (.vacant _) | none => none

/-- What is where a path leads. It is never a link. -/
def target? (fileSystem : FileSystem) (path : Path) : Option Node :=
  (fileSystem.place? path).bind fileSystem.node?

def pathExists (fileSystem : FileSystem) (path : Path) : Bool :=
  (fileSystem.target? path).isSome

/-- The regular file to which a path leads. -/
def file? (fileSystem : FileSystem) (path : Path) : Option File :=
  match fileSystem.target? path with
  | some (.regular file) => some file
  | some .directory | some (.link _) | none => none

def isFile (fileSystem : FileSystem) (path : Path) : Bool :=
  (fileSystem.file? path).isSome

/-- The content of the file to which a path leads, or why it cannot be read. -/
def read (fileSystem : FileSystem) (path : Path) : Except Text Bytes :=
  match fileSystem.target? path with
  | some (.regular file) => file.read
  | some .directory => .error "Is a directory (os error 21)".toList
  | some (.link _) | none => .error "No such file or directory (os error 2)".toList

def read? (fileSystem : FileSystem) (path : Path) : Option Bytes :=
  (fileSystem.read path).toOption

/-- What is at a place once there is a file with the given content. A file that
was there keeps what it permits. -/
def fileAfter (fileSystem : FileSystem) (place : Place) (content : Bytes) : File :=
  match fileSystem.node? place with
  | some (.regular file) => { file with content := content }
  | some .directory | some (.link _) | none => .ofContent content

/-- Whether a file can be written at a destination: over a file that permits it,
or under a free name that is not too long, in a directory that takes new files. -/
def isOpen (fileSystem : FileSystem) : Destination → Bool
  | .present place =>
      match fileSystem.node? place with
      | some (.regular file) => file.isWritable
      | some .directory | some (.link _) | none => false
  | .vacant place =>
      decide ((place.getLast?.getD []).length ≤ nameLimit) &&
        !fileSystem.closedDirectories.contains place.dropLast

/-- The file system after the file to which a path leads has been written, or
none where it cannot be. A file that is missing is made if its directory is
there. -/
def write? (fileSystem : FileSystem) (path : Path) (content : Bytes) : Option FileSystem :=
  match fileSystem.locate path with
  | none => none
  | some destination =>
      if fileSystem.isOpen destination then
        fileSystem.put? destination.place
          (.regular (fileSystem.fileAfter destination.place content))
      else
        none

end FileSystem

end BacklogTrace
