import BacklogTrace.FileSystem.Lookup
import BacklogTrace.Ignore.Rule

/-!
Contract: the rules that a directory brings.

A directory can hold `.ignore`, `.gitignore`, and the exclude file of its
repository. The last is in `.git/info`, unless `.git` is a file that names
another directory, whose `commondir` then leads to the repository. A directory
that holds `.git` or `.jj` is the top of a working tree.

A file of rules ends where it stops being text. The rules of a file match paths
relative to the directory; how a path is written decides what is taken off it.

Owns: `Ignore.Level`, `Ignore.Level.read`, `Ignore.Level.verdict?`.

Does not own: which levels are asked, in which order (`Ignore.Stack`).
-/

namespace BacklogTrace.Ignore

inductive Kind where
  | ignore
  | gitIgnore
  | gitExclude
deriving DecidableEq, Repr

/-- The rules that a directory brings. -/
structure Level where
  /-- The path of the directory, without a dot that begins it. -/
  root : Path
  ignore : List Rule
  gitIgnore : List Rule
  gitExclude : List Rule
  /-- Whether the directory is the top of a working tree. -/
  isTop : Bool
deriving Repr, Inhabited

def Level.rules (level : Level) : Kind → List Rule
  | .ignore => level.ignore
  | .gitIgnore => level.gitIgnore
  | .gitExclude => level.gitExclude

def dropLineEnding (line : Bytes) : Bytes :=
  match line.reverse with
  | 0x0a :: 0x0d :: rest => rest.reverse
  | 0x0a :: rest => rest.reverse
  | _ => line

/-- The lines of a file up to the first that is no text. -/
def textLines : List Bytes → List Text
  | [] => []
  | line :: lines =>
      match Utf8.decodeExact? (dropLineEnding line) with
      | none => []
      | some text => text :: textLines lines

/-- The lines without the byte order marks that begin them. -/
def dropByteOrderMark : List Text → List Text
  | [] => []
  | line :: lines => line.dropWhile (· == '\ufeff') :: lines

def rulesOf (content : Bytes) : List Rule :=
  (dropByteOrderMark (textLines (Utf8.byteLines content))).filterMap Rule.read?

/-- The rules in the file to which a path leads, if it can be read. -/
def rulesAt (fileSystem : FileSystem) (path : Path) : List Rule :=
  match fileSystem.read? path with
  | none => []
  | some content => rulesOf content

def firstLine? (fileSystem : FileSystem) (path : Path) : Option Text :=
  match fileSystem.read? path with
  | none => none
  | some content =>
      match Utf8.byteLines content with
      | [] => none
      | line :: _ => Utf8.decodeExact? (dropLineEnding line)

/-- The directory of the repository that a file names. -/
def commonDirectory? (fileSystem : FileSystem) (gitFile : Path) : Option Path :=
  match firstLine? fileSystem gitFile with
  | none => none
  | some line =>
      match "gitdir: ".toList.isPrefixOf? line with
      | none => none
      | some named =>
          match firstLine? fileSystem ((Path.ofText named).join (.ofText "commondir".toList)) with
          | none => none
          | some common =>
              if common.head? == some '.' then
                some ((Path.ofText named).join (.ofText common))
              else
                some (.ofText common)

/-- The directory of the repository of a working tree. -/
def repository? (fileSystem : FileSystem) (directory : Path) : Option Path :=
  let git := directory.join (.ofText ".git".toList)
  if fileSystem.isFile git then commonDirectory? fileSystem git else some git

def dropDotSlash : Bytes → Bytes
  | first :: second :: rest =>
      if first = Path.dot ∧ second = Path.slash then rest else first :: second :: rest
  | short => short

def Level.read (fileSystem : FileSystem) (directory : Path) : Level where
  root := ⟨dropDotSlash directory.spelling⟩
  ignore := rulesAt fileSystem (directory.join (.ofText ".ignore".toList))
  gitIgnore := rulesAt fileSystem (directory.join (.ofText ".gitignore".toList))
  gitExclude :=
    match repository? fileSystem directory with
    | none => []
    | some git => rulesAt fileSystem (git.join (.ofText "info/exclude".toList))
  isTop :=
    fileSystem.pathExists (directory.join (.ofText ".git".toList)) ||
      fileSystem.pathExists (directory.join (.ofText ".jj".toList))

def dropSlash : Bytes → Bytes
  | first :: rest => if first = Path.slash then rest else first :: rest
  | [] => []

/-- The path by which an entry is matched at a level. A bare name has nothing to
be taken off, and a dot as the root takes off nothing. -/
def Level.strip (level : Level) (path : Bytes) : Bytes :=
  let plain := dropDotSlash path
  if level.root.components = [.here] ∨ !plain.contains Path.slash then
    plain
  else
    match level.root.spelling.isPrefixOf? plain with
    | none => plain
    | some rest => dropSlash rest

/-- What the rules of one kind at a level say about an entry. -/
def Level.verdict? (level : Level) (kind : Kind) (path : Bytes) (isDirectory : Bool) :
    Option Verdict :=
  decide? (level.rules kind) (level.strip path) isDirectory

end BacklogTrace.Ignore
