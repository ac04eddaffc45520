import BacklogTrace.Path.Basic

/-!
Contract: a finite file system, as the places in it and what is there.

A place is the list of names that leads to it from the top without links and
without dots, so no two places are one. The top is always a directory and is not
listed. Every other place is listed at most once, and stands in a directory; what
is not listed is absent. A file system carries the proof of this, and `put` takes
the reason why it stays so.

A file may refuse to be read, with a reason that is told, and refuse to be
written. A directory may refuse new files. Nothing else is kept of permissions.

Owns: `Place`, `File`, `Node`, `Entries.IsTree`, `FileSystem`, `node?`, `children`,
`put`, `put?`.

Does not own: how a path leads to a place (`FileSystem.Lookup`).
-/

namespace BacklogTrace

/-- The names from the top of a file system down to a place in it. -/
abbrev Place := List Bytes

/-- A regular file. -/
structure File where
  content : Bytes
  /-- Why the content cannot be read, if it cannot. -/
  readFault : Option Text
  /-- Whether the content can be replaced. -/
  isWritable : Bool
deriving DecidableEq, Repr

namespace File

def ofContent (content : Bytes) : File :=
  ⟨content, none, true⟩

/-- The content of a file, or why it cannot be read. -/
def read (file : File) : Except Text Bytes :=
  match file.readFault with
  | none => .ok file.content
  | some reason => .error reason

end File

inductive Node where
  | regular (file : File)
  | directory
  /-- A symbolic link. -/
  | link (target : Path)
deriving DecidableEq, Repr

namespace Node

def file (content : Bytes) : Node :=
  .regular (.ofContent content)

/-- A regular file on a device that fails. -/
def brokenFile : Node :=
  .regular ⟨[], some "Input/output error (os error 5)".toList, false⟩

end Node

/-- Places below the top, and what is at each. -/
abbrev Entries := List (Place × Node)

/-- A list of names. -/
def IsPlace (place : Place) : Prop :=
  ∀ name ∈ place, Path.IsName name

instance (place : Place) : Decidable (IsPlace place) :=
  inferInstanceAs (Decidable (∀ name ∈ place, Path.IsName name))

theorem IsPlace.concat {place : Place} (isPlace : IsPlace place) {name : Bytes}
    (named : Path.IsName name) : IsPlace (place ++ [name]) :=
  List.forall_mem_append.2 ⟨isPlace, List.forall_mem_singleton.2 named⟩

namespace Entries

def node? (entries : Entries) (place : Place) : Option Node :=
  if place.isEmpty then
    some .directory
  else
    (entries.find? fun entry => entry.1 == place).map Prod.snd

def put (entries : Entries) (place : Place) (node : Node) : Entries :=
  entries.filter (fun entry => entry.1 != place) ++ [(place, node)]

/-- No place is listed twice, and every place that is listed is a name in a
directory. -/
structure IsTree (entries : Entries) : Prop where
  distinct : entries.Pairwise fun entry other => entry.1 ≠ other.1
  below : ∀ entry ∈ entries, entry.1 ≠ []
  named : ∀ entry ∈ entries, IsPlace entry.1
  rooted : ∀ entry ∈ entries, entries.node? entry.1.dropLast = some .directory

instance (entries : Entries) : Decidable entries.IsTree :=
  decidable_of_iff
    ((entries.Pairwise fun entry other => entry.1 ≠ other.1) ∧
      (∀ entry ∈ entries, entry.1 ≠ []) ∧ (∀ entry ∈ entries, IsPlace entry.1) ∧
        ∀ entry ∈ entries, entries.node? entry.1.dropLast = some .directory)
    ⟨fun ⟨distinct, below, named, rooted⟩ => ⟨distinct, below, named, rooted⟩,
      fun ⟨distinct, below, named, rooted⟩ => ⟨distinct, below, named, rooted⟩⟩

variable {entries : Entries} {place other : Place} {node : Node}

theorem mem_of_node? (below : place ≠ []) (found : entries.node? place = some node) :
    (place, node) ∈ entries := by
  have notEmpty : place.isEmpty = false := by simpa using below
  rw [node?, notEmpty, if_neg Bool.false_ne_true, Option.map_eq_some_iff] at found
  obtain ⟨entry, first, rfl⟩ := found
  have here : entry.1 = place := by simpa using List.find?_some first
  rw [← here]
  exact List.mem_of_find?_eq_some first

theorem node?_put_self (entries : Entries) (node : Node) (below : place ≠ []) :
    (entries.put place node).node? place = some node := by
  have notEmpty : place.isEmpty = false := by simpa using below
  have absent : ∀ entry ∈ entries.filter (fun entry => entry.1 != place),
      ¬ (entry.1 == place) = true := by
    intro entry member
    have := (List.mem_filter.1 member).2
    simpa using this
  simp only [node?, notEmpty, put, Bool.false_eq_true, if_false, List.find?_append,
    List.find?_eq_none.2 absent]
  simp

theorem node?_put_of_ne (entries : Entries) (node : Node) (different : other ≠ place) :
    (entries.put place node).node? other = entries.node? other := by
  have unequal : (place == other) = false := by simpa using different.symm
  simp only [node?, put, List.find?_append, List.find?_filter]
  split
  · rfl
  · have same : (fun entry : Place × Node =>
        decide ((entry.1 != place) = true ∧ (entry.1 == other) = true)) =
        fun entry => entry.1 == other := by
      funext entry
      by_cases equal : entry.1 = other
      · simp [equal, different]
      · simp [equal]
    rw [same]
    simp [unequal]

/-- What is put where no directory is leaves all directories in place. -/
theorem node?_put_directory (free : entries.node? place ≠ some .directory)
    (directory : entries.node? other = some .directory) (node : Node) :
    (entries.put place node).node? other = some .directory := by
  have different : other ≠ place := by
    rintro rfl
    exact free directory
  rw [node?_put_of_ne entries node different, directory]

theorem IsTree.put (tree : entries.IsTree) (isPlace : IsPlace place) (below : place ≠ [])
    (above : entries.node? place.dropLast = some .directory)
    (free : entries.node? place ≠ some .directory) (node : Node) :
    (entries.put place node).IsTree where
  distinct := by
    refine List.pairwise_append.2 ⟨tree.distinct.filter _, List.pairwise_singleton _ _,
      fun entry member other otherMember => ?_⟩
    rw [List.mem_singleton.1 otherMember]
    simpa using (List.mem_filter.1 member).2
  below := List.forall_mem_append.2
    ⟨fun entry member => tree.below entry (List.mem_filter.1 member).1,
      List.forall_mem_singleton.2 below⟩
  named := List.forall_mem_append.2
    ⟨fun entry member => tree.named entry (List.mem_filter.1 member).1,
      List.forall_mem_singleton.2 isPlace⟩
  rooted := List.forall_mem_append.2
    ⟨fun entry member =>
        node?_put_directory free (tree.rooted entry (List.mem_filter.1 member).1) node,
      List.forall_mem_singleton.2 (node?_put_directory free above node)⟩

end Entries

/-- Everything that exists, and the place from which relative paths begin. -/
structure FileSystem where
  entries : Entries
  workingDirectory : Place := []
  /-- The directories in which no file can be made. -/
  closedDirectories : List Place := []
  isTree : entries.IsTree := by decide
  beginsInDirectory : entries.node? workingDirectory = some .directory := by decide
deriving DecidableEq, Repr

namespace FileSystem

def node? (fileSystem : FileSystem) (place : Place) : Option Node :=
  fileSystem.entries.node? place

/-- What an entry is in a directory, if it stands there. -/
def childAt? (place : Place) (entry : Place × Node) : Option (Bytes × Node) :=
  match entry.1.getLast? with
  | none => none
  | some name => if entry.1.dropLast = place then some (name, entry.2) else none

/-- The entries of a directory: the name and what is there. -/
def children (fileSystem : FileSystem) (place : Place) : List (Bytes × Node) :=
  fileSystem.entries.filterMap (childAt? place)

variable {fileSystem : FileSystem} {place other : Place} {node : Node}

/-- Above what is there is a directory. -/
theorem node?_dropLast (there : fileSystem.node? place = some node) :
    fileSystem.node? place.dropLast = some .directory := by
  by_cases below : place = []
  · rw [below]
    rfl
  · exact fileSystem.isTree.rooted _ (Entries.mem_of_node? below there)

/-- What is there is at a list of names. -/
theorem isPlace_of_node? (there : fileSystem.node? place = some node) : IsPlace place := by
  by_cases below : place = []
  · rw [below]
    exact List.forall_mem_nil _
  · exact fileSystem.isTree.named _ (Entries.mem_of_node? below there)

/-! ## Putting -/

/-- A place that can be listed: a name in a directory, where no directory is. -/
structure Fits (fileSystem : FileSystem) (place : Place) : Prop where
  isPlace : IsPlace place
  below : place ≠ []
  above : fileSystem.node? place.dropLast = some .directory
  free : fileSystem.node? place ≠ some .directory

instance (fileSystem : FileSystem) (place : Place) : Decidable (fileSystem.Fits place) :=
  decidable_of_iff
    (IsPlace place ∧ place ≠ [] ∧ fileSystem.node? place.dropLast = some .directory ∧
      fileSystem.node? place ≠ some .directory)
    ⟨fun ⟨isPlace, below, above, free⟩ => ⟨isPlace, below, above, free⟩,
      fun ⟨isPlace, below, above, free⟩ => ⟨isPlace, below, above, free⟩⟩

def put (fileSystem : FileSystem) (place : Place) (node : Node) (fits : fileSystem.Fits place) :
    FileSystem where
  entries := fileSystem.entries.put place node
  workingDirectory := fileSystem.workingDirectory
  closedDirectories := fileSystem.closedDirectories
  isTree := fileSystem.isTree.put fits.isPlace fits.below fits.above fits.free node
  beginsInDirectory := Entries.node?_put_directory fits.free fileSystem.beginsInDirectory node

/-- The file system with a node at a place, if the place can be listed. -/
def put? (fileSystem : FileSystem) (place : Place) (node : Node) : Option FileSystem :=
  if fits : fileSystem.Fits place then some (fileSystem.put place node fits) else none

theorem put?_of_fits (fits : fileSystem.Fits place) (node : Node) :
    fileSystem.put? place node = some (fileSystem.put place node fits) :=
  dif_pos fits

theorem node?_put_self (node : Node) (fits : fileSystem.Fits place) :
    (fileSystem.put place node fits).node? place = some node :=
  Entries.node?_put_self _ node fits.below

theorem node?_put_of_ne (node : Node) (fits : fileSystem.Fits place) (different : other ≠ place) :
    (fileSystem.put place node fits).node? other = fileSystem.node? other :=
  Entries.node?_put_of_ne _ node different

theorem node?_put_directory (node : Node) (fits : fileSystem.Fits place)
    (directory : fileSystem.node? other = some .directory) :
    (fileSystem.put place node fits).node? other = some .directory :=
  Entries.node?_put_directory fits.free directory node

end FileSystem

end BacklogTrace
