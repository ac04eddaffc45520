import BacklogTrace.Glob.Filter
import BacklogTrace.Harvest.Basic
import BacklogTrace.Path.Relative

/-!
Contract: the harvest of files of a file system.

Files are named one by one or found below a root. A named file has to be
readable, and the first that is not fails the harvest; a file that was found is
passed over with a warning that says why. A fault in the scan of any file that
can be read goes before both. What is found is scanned in the order of paths, so
the order of the walk does not matter.

Owns: `Harvest.ofPaths`, `Harvest.ofFound`, `Harvest.ofTree`, `Harvest.Fault`.

Does not own: what a walk yields (`FileSearch.walk`), what passes a filter
(`Glob.Filter.admits`).
-/

namespace BacklogTrace.Harvest

inductive Fault where
  | scan (fault : ScanFault)
  | unreadableFile (path : Path)
  | badPattern (bad : Glob.BadPattern)
deriving DecidableEq, Repr

abbrev Selected := Path × Language

/-- The files in the wanted language, in order. -/
def select (wanted : Option Language) (paths : List Path) : List Selected :=
  paths.filterMap fun path => (languageOf? wanted path).map fun language => (path, language)

inductive Outcome where
  | unreadable (path : Path) (reason : Text)
  | scanned (records : List Record)
deriving DecidableEq, Repr

def readAndScan (fileSystem : FileSystem) (link : Path → Text) (file : Selected) :
    Except ScanFault Outcome :=
  match fileSystem.read file.1 with
  | .error reason => .ok (.unreadable file.1 reason)
  | .ok content =>
      match scanFile link file.2 file.1 (Utf8.decode content) with
      | .error fault => .error fault
      | .ok records => .ok (.scanned records)

def readAndScanAll (fileSystem : FileSystem) (link : Path → Text) :
    List Selected → Except ScanFault (List Outcome)
  | [] => .ok []
  | file :: files =>
      match readAndScan fileSystem link file with
      | .error fault => .error fault
      | .ok outcome =>
          match readAndScanAll fileSystem link files with
          | .error fault => .error fault
          | .ok outcomes => .ok (outcome :: outcomes)

/-- The records of files that all have to be readable. -/
def requireAll : List Outcome → Except Fault (List Record)
  | [] => .ok []
  | .unreadable path _ :: _ => .error (.unreadableFile path)
  | .scanned records :: outcomes =>
      match requireAll outcomes with
      | .error fault => .error fault
      | .ok others => .ok (records ++ others)

def ofPaths
    (fileSystem : FileSystem)
    (link : Path → Text)
    (wanted : Option Language)
    (paths : List Path) :
    Except Fault Harvest :=
  match readAndScanAll fileSystem link (select wanted paths) with
  | .error fault => .error (.scan fault)
  | .ok outcomes =>
      match requireAll outcomes with
      | .error fault => .error fault
      | .ok records =>
          let unsupported := paths.filter fun path => (languageOf? wanted path).isNone
          .ok ⟨records, unsupported.map unsupportedWarning⟩

def unreadableWarning (path : Path) (reason : Text) : Text :=
  "Skipped ".toList ++ path.shown ++ ": ".toList ++ reason

/-- The harvest of files that are passed over where they cannot be read. -/
def keepReadable : List Outcome → Harvest
  | [] => empty
  | .unreadable path reason :: outcomes =>
      ⟨[], [unreadableWarning path reason]⟩ ++ keepReadable outcomes
  | .scanned records :: outcomes => ⟨records, []⟩ ++ keepReadable outcomes

/-- The files that were found and pass a filter, in the order of paths. -/
def choose (root : Path) (filter : Glob.Filter) (wanted : Option Language)
    (found : List Path) : List Selected :=
  (select wanted (found.filter fun path =>
    filter.admits (Path.relativeTo root path).spelling)).mergeSort
      fun left right => Path.le left.1 right.1

def ofFound
    (fileSystem : FileSystem)
    (link : Path → Text)
    (wanted : Option Language)
    (filter : Glob.Filter)
    (root : Path)
    (found : List Path) :
    Except Fault Harvest :=
  match readAndScanAll fileSystem link (choose root filter wanted found) with
  | .error fault => .error (.scan fault)
  | .ok outcomes => .ok (keepReadable outcomes)

def ofTree
    [search : FileSearch]
    (fileSystem : FileSystem)
    (link : Path → Text)
    (wanted : Option Language)
    (included excluded : List Text)
    (root : Path) :
    Except Fault Harvest :=
  match Glob.Filter.read included excluded with
  | .error bad => .error (.badPattern bad)
  | .ok filter =>
      ofFound fileSystem link wanted filter root
        (Walk.regularFiles (search.walk fileSystem root))

end BacklogTrace.Harvest
