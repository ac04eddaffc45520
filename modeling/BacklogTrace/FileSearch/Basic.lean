import BacklogTrace.FileSystem.Lookup

/-!
Contract: what is asked of a search for files.

A search walks what is below a root, and it knows patterns for paths. A walk yields
entries, each with whether it is a regular file, and says where an entry could not
be looked at. A pattern is a text that can be read as one. Patterns are compiled
together into one test, and that can fail although each of them is a pattern.

Everything that uses a search takes any search, so no result depends on how entries
are ignored or what a pattern matches.

Owns: `Walk.Item`, `FileSearch`.

Does not own: the search with which programs run (`FileSearch.Standard`), which of
the files that are found are scanned (`Harvest`).
-/

namespace BacklogTrace

/-- What a walk yields. -/
inductive Walk.Item where
  /-- An entry that could not be looked at. -/
  | failed
  | entry (path : Path) (isFile : Bool)
deriving DecidableEq, Repr

/-- The regular files that a walk yields, in order. -/
def Walk.regularFiles (items : List Walk.Item) : List Path :=
  items.filterMap fun item =>
    match item with
    | .entry path true => some path
    | .entry _ false | .failed => none

/-- A walk of file systems, and patterns for paths. -/
class FileSearch where
  walk : FileSystem → Path → List Walk.Item
  isPattern : Text → Bool
  /-- The test for the paths that some pattern matches, if it can be compiled. -/
  compile? : List Text → Option (Bytes → Bool)

end BacklogTrace
