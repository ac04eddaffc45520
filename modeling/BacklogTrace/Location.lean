import BacklogTrace.Path.Relative

/-!
Contract: the links that records carry.

A file is linked by its path, relative to a root where one is given, or by its
address in a hosted repository whose checkout is at the root. An address is made
of the names below the root; whatever else a path holds has no place in it.

Owns: `Repository`, `Location`, `Location.link`.

Does not own: which root a scan is given (`Run`).
-/

namespace BacklogTrace

/-- A hosted repository and the branch to which links lead. -/
structure Repository where
  baseUrl : Text
  organization : Text
  repository : Text
  branch : Text
deriving DecidableEq, Repr

namespace Repository

def defaultBaseUrl : Text := "https://github.com".toList

def defaultBranch : Text := "master".toList

/-- The repository of an owner, with the host and the branch that are given. -/
def make (organization repository : Text) (baseUrl branch : Option Text) : Repository where
  baseUrl := baseUrl.getD defaultBaseUrl
  organization := organization
  repository := repository
  branch := branch.getD defaultBranch

/-- A part of an address, without the slashes around it. -/
def dropSlashes (part : Text) : Text :=
  Sequence.trimWhile (· == '/') part

def address (repository : Repository) (names : List Text) : Text :=
  Sequence.dropEndWhile (· == '/') repository.baseUrl ++
    '/' :: dropSlashes repository.organization ++
    '/' :: dropSlashes repository.repository ++
    "/blob/".toList ++ dropSlashes repository.branch ++
    '/' :: ['/'].intercalate names

end Repository

inductive Location where
  /-- By their paths as they are given. -/
  | asGiven
  /-- By their paths below a root. -/
  | below (root : Path)
  /-- By their addresses in a repository. -/
  | hosted (repository : Repository) (root : Path)
deriving DecidableEq, Repr

def Path.names (path : Path) : List Text :=
  path.components.filterMap fun component =>
    match component with
    | .named name => some (Utf8.decode name)
    | .top | .here | .up => none

def Location.link : Location → Path → Text
  | .asGiven, path => path.shown
  | .below root, path => (Path.relativeTo root path).shown
  | .hosted repository root, path => repository.address (Path.relativeTo root path).names

end BacklogTrace
