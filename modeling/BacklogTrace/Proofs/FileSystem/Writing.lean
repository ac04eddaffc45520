import BacklogTrace.Proofs.FileSystem.Lookup

/-!
Contract: what writing a file does.

A path can be written if it leads to a file that permits it, or to a free name that
is not too long in a directory that takes new files; what is written does not
matter, and neither does whether it can be read. Afterwards the path leads to what
has been written, and there is no difference at any other place.

Owns: `FileSystem.WritesAt`, `FileSystem.IsWritable`.

Does not own: `FileSystem.put` (`FileSystem.Basic`).
-/

namespace BacklogTrace

/-- Where a path leads once there is a file at a place. -/
def Destination.afterWriting (place : Place) : Destination → Destination
  | .present other => .present other
  | .vacant other => if other = place then .present other else .vacant other

namespace FileSystem

/-- How far a path can be followed once there is a file at a place. -/
def Progress.afterWriting (place : Place) : Progress → Progress
  | .arrived destination => .arrived (destination.afterWriting place)
  | .detour directory segments => .detour directory segments

/-- Where a path can be written. -/
inductive WritesAt (fileSystem : FileSystem) (path : Path) : Place → Prop
  /-- Over a file that permits it. -/
  | replacing {place : Place} {file : File}
      (leads : fileSystem.locate path = some (.present place))
      (there : fileSystem.node? place = some (.regular file))
      (permitted : file.isWritable = true) : WritesAt fileSystem path place
  /-- At a free name in a directory that takes new files. -/
  | making {place : Place}
      (leads : fileSystem.locate path = some (.vacant place))
      (short : (place.getLast?.getD []).length ≤ nameLimit)
      (permitted : place.dropLast ∉ fileSystem.closedDirectories) : WritesAt fileSystem path place

def IsWritable (fileSystem : FileSystem) (path : Path) : Prop :=
  ∃ place, fileSystem.WritesAt path place

variable {fileSystem written : FileSystem} {path : Path} {place : Place} {content : Bytes}

theorem writesAt_iff :
    fileSystem.WritesAt path place ↔
      ∃ destination, fileSystem.locate path = some destination ∧
        fileSystem.isOpen destination = true ∧ destination.place = place := by
  constructor
  · intro writes
    cases writes with
    | replacing leads there permitted =>
        refine ⟨.present place, leads, ?_, rfl⟩
        rw [isOpen, there]
        exact permitted
    | making leads short permitted =>
        refine ⟨.vacant place, leads, ?_, rfl⟩
        simp [isOpen, short, permitted]
  · rintro ⟨destination, leads, isOpen, rfl⟩
    cases destination with
    | present place =>
        rw [FileSystem.isOpen] at isOpen
        split at isOpen
        case h_1 there => exact .replacing leads there isOpen
        case h_2 => exact absurd isOpen (by simp)
        case h_3 => exact absurd isOpen (by simp)
        case h_4 => exact absurd isOpen (by simp)
    | vacant place =>
        rw [FileSystem.isOpen, Bool.and_eq_true, decide_eq_true_iff] at isOpen
        obtain ⟨short, permitted⟩ := isOpen
        rw [Bool.not_eq_true', List.contains_eq_mem, decide_eq_false_iff_not] at permitted
        exact .making leads short permitted

/-- What can be written can be put. -/
theorem WritesAt.fits (writes : fileSystem.WritesAt path place) : fileSystem.Fits place := by
  cases writes with
  | replacing leads there permitted => exact fits_of_node? there (by simp)
  | making leads short permitted => exact (isVacant_of_locate leads).fits

theorem write?_eq_some_iff :
    fileSystem.write? path content = some written ↔
      ∃ place, ∃ writes : fileSystem.WritesAt path place,
        written = fileSystem.put place (.regular (fileSystem.fileAfter place content))
          writes.fits := by
  constructor
  · intro succeeds
    rw [write?] at succeeds
    split at succeeds
    case h_1 => exact absurd succeeds (by simp)
    case h_2 destination leads =>
      split at succeeds
      case isFalse => exact absurd succeeds (by simp)
      case isTrue isOpen =>
        have writes := writesAt_iff.2 ⟨destination, leads, isOpen, rfl⟩
        rw [put?_of_fits writes.fits] at succeeds
        exact ⟨destination.place, writes, (Option.some.inj succeeds).symm⟩
  · rintro ⟨place, writes, rfl⟩
    obtain ⟨destination, leads, isOpen, rfl⟩ := writesAt_iff.1 writes
    rw [write?, leads]
    dsimp only
    rw [if_pos isOpen, put?_of_fits writes.fits]

theorem write?_eq_none_iff :
    fileSystem.write? path content = none ↔ ¬ fileSystem.IsWritable path := by
  constructor
  · rintro failed ⟨place, writes⟩
    have succeeded : fileSystem.write? path content = some _ :=
      write?_eq_some_iff.2 ⟨place, writes, rfl⟩
    exact absurd (failed.symm.trans succeeded) (by simp)
  · intro unwritable
    cases given : fileSystem.write? path content with
    | none => rfl
    | some written =>
        obtain ⟨place, writes, -⟩ := write?_eq_some_iff.1 given
        exact absurd ⟨place, writes⟩ unwritable

/-- A file that can be read and may not be replaced keeps its content. -/
example :
    FileSystem.write?
      { entries :=
          [([Utf8.encode "out".toList], .regular ⟨Utf8.encode "old".toList, none, false⟩)] }
      (.ofText "out".toList) (Utf8.encode "new".toList) = none := rfl

/-! ## Reading back -/

/-- A place that holds a file or nothing. -/
structure IsFree (fileSystem : FileSystem) (place : Place) : Prop where
  fits : fileSystem.Fits place
  noLink : ∀ target, fileSystem.node? place ≠ some (.link target)

theorem WritesAt.isFree (writes : fileSystem.WritesAt path place) : fileSystem.IsFree place := by
  refine ⟨writes.fits, fun target link => ?_⟩
  cases writes with
  | replacing leads there permitted => exact absurd (link.symm.trans there) (by simp)
  | making leads short permitted =>
      obtain ⟨_, _, -, -, -, absent⟩ := isVacant_of_locate leads
      exact absurd (link.symm.trans absent) (by simp)

/-- Segments are followed as far when a file is written, and arrive there if the
file was missing. -/
theorem Advances.put (free : fileSystem.IsFree place) (file : File) {start : Place}
    {segments : List Bytes} {progress : Progress}
    (advances : fileSystem.Advances start segments progress) :
    (fileSystem.put place (.regular file) free.fits).Advances start segments
      (progress.afterWriting place) := by
  induction advances with
  | here start => exact .here start
  | idle directory idle _ inductionHypothesis =>
      exact .idle (node?_put_directory _ free.fits directory) idle inductionHypothesis
  | up directory busy up _ inductionHypothesis =>
      exact .up (node?_put_directory _ free.fits directory) busy up inductionHypothesis
  | @vacant start segment directory busy notUp absent =>
      have isDirectory := node?_put_directory (.regular file) free.fits directory
      by_cases here : start ++ [segment] = place
      · cases here
        simp only [Progress.afterWriting, Destination.afterWriting, if_true]
        exact .down isDirectory busy notUp (node?_put_self _ free.fits) (fun _ => nofun) (.here _)
      · simp only [Progress.afterWriting, Destination.afterWriting, if_neg here]
        exact .vacant isDirectory busy notUp ((node?_put_of_ne _ free.fits here).trans absent)
  | @detour start segment _ target directory busy notUp link =>
      have elsewhere : start ++ [segment] ≠ place := by
        rintro rfl
        exact free.noLink target link
      exact .detour (node?_put_directory _ free.fits directory) busy notUp
        ((node?_put_of_ne _ free.fits elsewhere).trans link)
  | @down start segment _ node _ directory busy notUp found noLink _ inductionHypothesis =>
      have isDirectory := node?_put_directory (.regular file) free.fits directory
      by_cases here : start ++ [segment] = place
      · cases here
        exact .down isDirectory busy notUp (node?_put_self _ free.fits) (fun _ => nofun)
          inductionHypothesis
      · exact .down isDirectory busy notUp ((node?_put_of_ne _ free.fits here).trans found) noLink
          inductionHypothesis

theorem Follows.put (free : fileSystem.IsFree place) (file : File) {links : Nat}
    {start : Place} {segments : List Bytes} {destination : Destination}
    (follows : fileSystem.Follows links start segments destination) :
    (fileSystem.put place (.regular file) free.fits).Follows links start segments
      (destination.afterWriting place) := by
  induction follows with
  | arrived advances => exact .arrived (advances.put free file)
  | detour advances _ inductionHypothesis =>
      exact .detour (advances.put free file) inductionHypothesis

theorem locate_put (free : fileSystem.IsFree place) (file : File) {destination : Destination}
    (leads : fileSystem.locate path = some destination) :
    (fileSystem.put place (.regular file) free.fits).locate path =
      some (destination.afterWriting place) := by
  rw [locate] at leads ⊢
  split at leads
  case isTrue => exact absurd leads (by simp)
  case isFalse spelled =>
    rw [if_neg spelled]
    exact follow_eq_some_iff.2 ((follow_eq_some_iff.1 leads).put free file)

/-- A path leads to what has been written at it. -/
theorem WritesAt.locate_put (writes : fileSystem.WritesAt path place) (file : File) :
    (fileSystem.put place (.regular file) writes.fits).locate path = some (.present place) := by
  have free := writes.isFree
  cases writes with
  | replacing leads there permitted => exact FileSystem.locate_put free file leads
  | making leads short permitted =>
      rw [FileSystem.locate_put free file leads, Destination.afterWriting, if_pos rfl]

theorem content_fileAfter (fileSystem : FileSystem) (place : Place) (content : Bytes) :
    (fileSystem.fileAfter place content).content = content := by
  rw [fileAfter]
  split <;> rfl

/-- The file of the path is as it has been written, and nothing else has changed. -/
theorem exists_place_of_write? (succeeds : fileSystem.write? path content = some written) :
    ∃ place file, fileSystem.WritesAt path place ∧ written.file? path = some file ∧
      file.content = content ∧ ∀ other ≠ place, written.node? other = fileSystem.node? other := by
  obtain ⟨place, writes, rfl⟩ := write?_eq_some_iff.1 succeeds
  refine ⟨place, fileSystem.fileAfter place content, writes, ?_,
    content_fileAfter fileSystem place content, fun other => node?_put_of_ne _ writes.fits⟩
  rw [file?_eq_some_iff, target?, place?_eq_some_iff.2 (writes.locate_put _), Option.bind_some,
    node?_put_self]

end FileSystem

end BacklogTrace
