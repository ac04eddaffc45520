import BacklogTrace.Proofs.Harvest.Tree

/-!
Contract: what fails the harvest of one file, and of a tree.

A named file fails its harvest if it is selected and cannot be read, and its own
scan may fault. A tree fails its harvest if a pattern is bad, which is found out
before the walk; a file in it that cannot be read fails nothing. The scan of any
file that is chosen may fault.

Owns: when `Harvest.ofPaths` of one file and `Harvest.ofTree` give an error.

Does not own: what they give otherwise (`Proofs.Harvest.Paths`,
`Proofs.Harvest.Tree`).
-/

namespace BacklogTrace.Harvest

variable {fileSystem : FileSystem} {link : Path → Text} {wanted : Option Language}
  {included excluded : List Text} {root path other : Path}

/-! ## One named file -/

theorem ofFile_eq_ok_of_not_isSelected (passedOver : ¬ IsSelected wanted path) :
    ofPaths fileSystem link wanted [path] = .ok ⟨[], [unsupportedWarning path]⟩ := by
  have none : [path].filter (IsSelected wanted) = [] := by simp [passedOver]
  have found : List.Forall₂ (Finds fileSystem link) ([path].filter (IsSelected wanted)) [] := by
    rw [none]
    exact .nil
  simpa [unselectedWarnings, passedOver] using ofPaths_of_finds found

theorem ofFile_eq_unreadable (selected : IsSelected wanted path)
    (absent : fileSystem.read? path = none) :
    ofPaths fileSystem link wanted [path] = .error (.unreadableFile path) := by
  apply ofPaths_of_isFirstUnreadable
  · exact List.forall_mem_singleton.2 fun _ => not_faults_of_unreadable absent
  · exact ⟨[], [], by simp [selected], List.forall_mem_nil _, absent⟩

theorem exists_ofFile_eq_scan (selected : IsSelected wanted path)
    (faults : Faults fileSystem link path) :
    ∃ fault, ofPaths fileSystem link wanted [path] = .error (.scan fault) :=
  ofPaths_of_faults ⟨path, List.mem_singleton_self path, selected, faults⟩

/-- What becomes of one named file. -/
theorem ofFile_cases (fileSystem : FileSystem) (link : Path → Text) (wanted : Option Language)
    (path : Path) :
    (∃ harvest, ofPaths fileSystem link wanted [path] = .ok harvest) ∨
      (IsSelected wanted path ∧ fileSystem.read? path = none) ∨
      (IsSelected wanted path ∧ Faults fileSystem link path) := by
  by_cases selected : IsSelected wanted path
  · by_cases faults : Faults fileSystem link path
    · exact .inr (.inr ⟨selected, faults⟩)
    · by_cases absent : fileSystem.read? path = none
      · exact .inr (.inl ⟨selected, absent⟩)
      · obtain ⟨records, found⟩ := exists_finds selected faults absent
        exact .inl ⟨_, ofPaths_of_selected (List.forall_mem_singleton.2 selected)
          (.cons found .nil)⟩
  · exact .inl ⟨_, ofFile_eq_ok_of_not_isSelected selected⟩

/-! ## A tree -/

section

variable [search : FileSearch]

/-- A file of the walk that is scanned: in the wanted language, and admitted by the
filter by what its path is below the root. -/
structure IsScanned (fileSystem : FileSystem) (wanted : Option Language)
    (included excluded : List Text) (root path : Path) : Prop where
  walked : path ∈ Walk.regularFiles (search.walk fileSystem root)
  selected : IsSelected wanted path
  admitted : ∃ filter, Glob.Filter.read included excluded = .ok filter ∧
    filter.admits (Path.relativeTo root path).spelling = true

/-- Without a bad pattern, a harvest meets a fault exactly in a file that is scanned. -/
theorem exists_readAndScanAll_choose_eq_error_iff {filter : Glob.Filter}
    (given : Glob.Filter.read included excluded = .ok filter) :
    (∃ fault, readAndScanAll fileSystem link (choose root filter wanted
        (Walk.regularFiles (search.walk fileSystem root))) = .error fault) ↔
      ∃ path, IsScanned fileSystem wanted included excluded root path ∧
        Faults fileSystem link path := by
  have isScanned : ∀ path,
      path ∈ chosenPaths root filter wanted (Walk.regularFiles (search.walk fileSystem root)) ↔
        IsScanned fileSystem wanted included excluded root path := by
    intro path
    rw [mem_chosenPaths_iff_admits]
    constructor
    · rintro ⟨walked, selected, admitted⟩
      exact ⟨walked, selected, filter, given, admitted⟩
    · rintro ⟨walked, selected, other, otherGiven, admitted⟩
      rw [given] at otherGiven
      exact ⟨walked, selected, Except.ok.inj otherGiven ▸ admitted⟩
  rw [exists_readAndScanAll_eq_error_iff isNamed_of_mem_choose]
  constructor
  · rintro ⟨file, member, faults⟩
    exact ⟨file.1, (isScanned file.1).1 (List.mem_map_of_mem member), faults⟩
  · rintro ⟨path, scanned, faults⟩
    obtain ⟨file, member, rfl⟩ := List.mem_map.1 ((isScanned path).2 scanned)
    exact ⟨file, member, faults⟩

theorem ofTree_eq_badPattern {bad : Glob.BadPattern}
    (isFirstBad : Glob.IsFirstBad included excluded bad) :
    ofTree fileSystem link wanted included excluded root = .error (.badPattern bad) := by
  rw [ofTree, Glob.Filter.read_eq_error_iff.2 isFirstBad]

theorem exists_ofTree_eq_scan (scanned : IsScanned fileSystem wanted included excluded root path)
    (faults : Faults fileSystem link path) :
    ∃ fault, ofTree fileSystem link wanted included excluded root = .error (.scan fault) := by
  obtain ⟨filter, given, -⟩ := scanned.admitted
  obtain ⟨fault, failed⟩ :=
    (exists_readAndScanAll_choose_eq_error_iff given).2 ⟨path, scanned, faults⟩
  refine ⟨fault, ?_⟩
  rw [ofTree_of_read given, ofFound, failed]

/-- What becomes of a tree. -/
theorem ofTree_cases (fileSystem : FileSystem) (link : Path → Text) (wanted : Option Language)
    (included excluded : List Text) (root : Path) :
    (∃ harvest, ofTree fileSystem link wanted included excluded root = .ok harvest) ∨
      (∃ bad, Glob.IsFirstBad included excluded bad) ∨
      ∃ path, IsScanned fileSystem wanted included excluded root path ∧
        Faults fileSystem link path := by
  cases given : Glob.Filter.read included excluded with
  | error bad => exact .inr (.inl ⟨bad, Glob.Filter.read_eq_error_iff.1 given⟩)
  | ok filter =>
      cases scanned : readAndScanAll fileSystem link (choose root filter wanted
          (Walk.regularFiles (search.walk fileSystem root))) with
      | ok outcomes =>
          refine .inl ⟨keepReadable outcomes, ?_⟩
          rw [ofTree_of_read given, ofFound, scanned]
      | error fault =>
          exact .inr (.inr
            ((exists_readAndScanAll_choose_eq_error_iff given).1 ⟨fault, scanned⟩))

end

end BacklogTrace.Harvest
