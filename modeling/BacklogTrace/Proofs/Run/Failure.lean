import BacklogTrace.Proofs.FileSystem.Writing
import BacklogTrace.Proofs.Harvest.Failure
import BacklogTrace.Proofs.Run.Harvest
import BacklogTrace.Proofs.Run.Targets

/-!
Contract: what stops a run, and what a run leaves behind.

The reasons for which a run fails are met in an order: its configuration, then each
target when its turn comes, then its report. A fault in a scan stops a run when it
is met. A run that is stopped has written nothing; any other run writes one report.

Owns: `Run.ReportsOnce`, `Run.Target.Fails`, `Run.Target.Faults`, `Run.FailsWith`,
`Run.MeetsFault`.

Does not own: what is reported (`Report`).
-/

namespace BacklogTrace.Run

open CommandLine (Options)

variable {fileSystem : FileSystem} {coloured : Bool} {options : Options}
  {target : Target} {failure : Failure}

/-! ## What is left behind -/

/-- A run that finished without an error, and with one report: printed, or in the
output file and nowhere else. -/
inductive ReportsOnce (fileSystem : FileSystem) (options : Options) (report : Text) : Result → Prop
  | printed {said : Text} (noFile : options.output = none) :
      ReportsOnce fileSystem options report (.finished ⟨0, report, said, fileSystem⟩)
  | written {said : Text} {path : Path} {place : Place} {file : File} {written : FileSystem}
      (toFile : options.output = some path) (writes : fileSystem.WritesAt path place)
      (there : written.file? path = some file) (holds : file.content = Utf8.encode report)
      (elsewhere : ∀ other ≠ place, written.node? other = fileSystem.node? other) :
      ReportsOnce fileSystem options report (.finished ⟨0, [], said, written⟩)

theorem reportsOnce_writeReport {said : Text} {each : Harvest}
    (writable : ∀ path, options.output = some path → fileSystem.IsWritable path) :
    ReportsOnce fileSystem options (Report.render options.format coloured each)
      (writeReport fileSystem coloured options said each) := by
  rw [writeReport]
  cases output : options.output with
  | none => exact .printed output
  | some path =>
      dsimp only
      cases written : fileSystem.write? path
          (Utf8.encode (Report.render options.format coloured each)) with
      | none => exact absurd (writable path output) (FileSystem.write?_eq_none_iff.1 written)
      | some after =>
          obtain ⟨place, file, writes, there, holds, elsewhere⟩ :=
            FileSystem.exists_place_of_write? written
          exact .written output writes there holds elsewhere

/-- What a run prints on standard output. -/
def Result.printed : Result → Text
  | .finished outcome => outcome.output
  | .refused _ | .faulted _ => []

/-- The file system after a run in the given one. -/
def Result.leaves (fileSystem : FileSystem) : Result → FileSystem
  | .finished outcome => outcome.fileSystem
  | .refused _ | .faulted _ => fileSystem

/-- A run that ends without an error and without a fault. -/
def Result.Succeeds : Result → Prop
  | .finished outcome => outcome.exitCode = 0
  | .refused _ | .faulted _ => False

section Reasons

variable [FileSearch]

/-! ## One target -/

/-- Why a run fails at a target. What exists and is no file is walked. -/
inductive Target.Fails (fileSystem : FileSystem) (target : Target) : Failure → Prop
  | missingRoot (absent : fileSystem.pathExists target.root = false) :
      Fails fileSystem target (.missingRoot target.root)
  | badPattern {bad : Glob.BadPattern} (present : fileSystem.pathExists target.root = true)
      (noFile : fileSystem.isFile target.root = false)
      (isFirstBad : Glob.IsFirstBad target.included target.excluded bad) :
      Fails fileSystem target (.badPattern bad)
  | unreadableFile (file : fileSystem.isFile target.root = true)
      (selected : Harvest.IsSelected target.language target.root)
      (unreadable : fileSystem.read? target.root = none) :
      Fails fileSystem target (.unreadableFile target.root)

/-- How the scan of a target meets a fault. -/
inductive Target.Faults (fileSystem : FileSystem) (target : Target) : Prop
  | file (file : fileSystem.isFile target.root = true)
      (selected : Harvest.IsSelected target.language target.root)
      (faults : Harvest.Faults fileSystem target.location.link target.root)
  | tree {path : Path} (present : fileSystem.pathExists target.root = true)
      (noFile : fileSystem.isFile target.root = false)
      (scanned : Harvest.IsScanned fileSystem target.language target.included target.excluded
        target.root path)
      (faults : Harvest.Faults fileSystem target.location.link path)

/-- A target at which no run is stopped. -/
def Target.Passes (fileSystem : FileSystem) (target : Target) : Prop :=
  (∀ failure, ¬ target.Fails fileSystem failure) ∧ ¬ target.Faults fileSystem

theorem Target.harvest_of_file (file : fileSystem.isFile target.root = true) :
    target.harvest fileSystem =
      (Harvest.ofPaths fileSystem target.location.link target.language [target.root]).mapError
        Stop.ofHarvest := by
  rw [Target.harvest, if_pos (FileSystem.pathExists_of_isFile file), harvestTarget, if_pos file]
  cases Harvest.ofPaths fileSystem target.location.link target.language [target.root] <;> rfl

theorem Target.harvest_of_tree (present : fileSystem.pathExists target.root = true)
    (noFile : fileSystem.isFile target.root = false) :
    target.harvest fileSystem =
      (Harvest.ofTree fileSystem target.location.link target.language target.included
        target.excluded target.root).mapError Stop.ofHarvest := by
  rw [Target.harvest, if_pos present, harvestTarget, if_neg (ne_true_of_eq_false noFile)]
  cases Harvest.ofTree fileSystem target.location.link target.language target.included
    target.excluded target.root <;> rfl

theorem Target.Fails.harvest_eq (fails : target.Fails fileSystem failure) :
    target.harvest fileSystem = .error (.failure failure) := by
  cases fails with
  | missingRoot absent => rw [Target.harvest, if_neg (ne_true_of_eq_false absent)]
  | badPattern present noFile isFirstBad =>
      rw [Target.harvest_of_tree present noFile, Harvest.ofTree_eq_badPattern isFirstBad]
      rfl
  | unreadableFile file selected unreadable =>
      rw [Target.harvest_of_file file, Harvest.ofFile_eq_unreadable selected unreadable]
      rfl

theorem Target.Faults.exists_harvest_eq (meets : target.Faults fileSystem) :
    ∃ fault, target.harvest fileSystem = .error (.fault fault) := by
  cases meets with
  | file file selected faults =>
      obtain ⟨fault, failed⟩ := Harvest.exists_ofFile_eq_scan selected faults
      exact ⟨fault, by rw [Target.harvest_of_file file, failed]; rfl⟩
  | tree present noFile scanned faults =>
      obtain ⟨fault, failed⟩ := Harvest.exists_ofTree_eq_scan scanned faults
      exact ⟨fault, by rw [Target.harvest_of_tree present noFile, failed]; rfl⟩

/-- A target has a harvest, or a run is stopped at it for one of these reasons. -/
theorem Target.harvest_cases (fileSystem : FileSystem) (target : Target) :
    (∃ each, target.harvest fileSystem = .ok each) ∨
      (∃ failure, target.Fails fileSystem failure) ∨ target.Faults fileSystem := by
  cases present : fileSystem.pathExists target.root with
  | false => exact .inr (.inl ⟨_, .missingRoot present⟩)
  | true =>
      cases file : fileSystem.isFile target.root with
      | true =>
          rcases Harvest.ofFile_cases fileSystem target.location.link target.language
            target.root with ⟨each, given⟩ | ⟨selected, unreadable⟩ | ⟨selected, faults⟩
          · exact .inl ⟨each, by rw [Target.harvest_of_file file, given]; rfl⟩
          · exact .inr (.inl ⟨_, .unreadableFile file selected unreadable⟩)
          · exact .inr (.inr (.file file selected faults))
      | false =>
          rcases Harvest.ofTree_cases fileSystem target.location.link target.language
            target.included target.excluded target.root with
            ⟨each, given⟩ | ⟨bad, isFirstBad⟩ | ⟨path, scanned, faults⟩
          · exact .inl ⟨each, by rw [Target.harvest_of_tree present file, given]; rfl⟩
          · exact .inr (.inl ⟨_, .badPattern present file isFirstBad⟩)
          · exact .inr (.inr (.tree present file scanned faults))

theorem Target.exists_harvest_eq_ok_iff :
    (∃ each, target.harvest fileSystem = .ok each) ↔ target.Passes fileSystem := by
  constructor
  · rintro ⟨each, given⟩
    refine ⟨fun failure fails => ?_, fun faults => ?_⟩
    · exact absurd (given.symm.trans fails.harvest_eq) (by simp)
    · obtain ⟨fault, failed⟩ := faults.exists_harvest_eq
      exact absurd (given.symm.trans failed) (by simp)
  · rintro ⟨noFailure, noFault⟩
    rcases target.harvest_cases fileSystem with ⟨each, given⟩ | ⟨failure, fails⟩ | faults
    · exact ⟨each, given⟩
    · exact absurd fails (noFailure failure)
    · exact absurd faults noFault

/-! ## A run -/

/-- Why a run fails. Each reason comes after the ones above it, and a target after
the targets before it. -/
inductive FailsWith (fileSystem : FileSystem) (options : Options) : Failure → Prop
  | noTargets {failure : Failure} (hasNone : HasNoTargets fileSystem options failure) :
      FailsWith fileSystem options failure
  | target {before after : List Target} {target : Target} {failure : Failure}
      (has : targets fileSystem options = .ok (before ++ target :: after))
      (passed : ∀ earlier ∈ before, earlier.Passes fileSystem)
      (fails : target.Fails fileSystem failure) : FailsWith fileSystem options failure
  | report {all : List Target} {path : Path} (has : targets fileSystem options = .ok all)
      (passed : ∀ target ∈ all, target.Passes fileSystem)
      (output : options.output = some path) (unwritable : ¬ fileSystem.IsWritable path) :
      FailsWith fileSystem options (.unwritableReport path)

/-- A run meets a fault before it fails. -/
def MeetsFault (fileSystem : FileSystem) (options : Options) : Prop :=
  ∃ before target after, targets fileSystem options = .ok (before ++ target :: after) ∧
    (∀ earlier ∈ before, earlier.Passes fileSystem) ∧ target.Faults fileSystem

theorem harvest_of_targets {all : List Target} (has : targets fileSystem options = .ok all) :
    harvest fileSystem options =
      (all.mapM (Target.harvest fileSystem)).map Harvest.join := by
  rw [harvest, has]

theorem harvest_of_stopped {before after : List Target} {stop : Stop}
    (has : targets fileSystem options = .ok (before ++ target :: after))
    (passed : ∀ earlier ∈ before, earlier.Passes fileSystem)
    (stopped : target.harvest fileSystem = .error stop) :
    harvest fileSystem options = .error stop := by
  have failed : (before ++ target :: after).mapM (Target.harvest fileSystem) = .error stop :=
    Traversal.mapM_eq_error_iff.2 ⟨before, target, after, rfl,
      fun earlier member => Target.exists_harvest_eq_ok_iff.2 (passed earlier member), stopped⟩
  rw [harvest_of_targets has, failed]
  rfl

theorem exists_harvest_of_passed {all : List Target} (has : targets fileSystem options = .ok all)
    (passed : ∀ target ∈ all, target.Passes fileSystem) :
    ∃ each, harvest fileSystem options = .ok each := by
  obtain ⟨harvests, given⟩ := Traversal.exists_mapM_eq_ok_iff.2
    fun target member => Target.exists_harvest_eq_ok_iff.2 (passed target member)
  exact ⟨Harvest.join harvests, by rw [harvest_of_targets has, given]; rfl⟩

/-- A run that neither fails nor meets a fault has targets, all of which pass. -/
theorem exists_targets_of_not_stopped
    (noFailure : ∀ failure, ¬ FailsWith fileSystem options failure)
    (noFault : ¬ MeetsFault fileSystem options) :
    ∃ all, targets fileSystem options = .ok all ∧ ∀ target ∈ all, target.Passes fileSystem := by
  cases has : targets fileSystem options with
  | error failure =>
      exact absurd (.noTargets (targets_eq_error_iff.1 has)) (noFailure failure)
  | ok all =>
      refine ⟨all, rfl, ?_⟩
      simp only [← Target.exists_harvest_eq_ok_iff]
      refine Traversal.exists_mapM_eq_ok_iff.1 ?_
      cases given : all.mapM (Target.harvest fileSystem) with
      | ok harvests => exact ⟨harvests, rfl⟩
      | error stop =>
          obtain ⟨before, target, after, rfl, passed, stopped⟩ :=
            Traversal.mapM_eq_error_iff.1 given
          have passes := fun earlier member =>
            Target.exists_harvest_eq_ok_iff.1 (passed earlier member)
          rcases target.harvest_cases fileSystem with ⟨each, found⟩ | ⟨failure, fails⟩ | faults
          · exact absurd (stopped.symm.trans found) (by simp)
          · exact absurd (.target has passes fails) (noFailure failure)
          · exact absurd ⟨before, target, after, has, passes, faults⟩ noFault

theorem FailsWith.harvest_cases (fails : FailsWith fileSystem options failure) :
    harvest fileSystem options = .error (.failure failure) ∨
      ∃ each path, harvest fileSystem options = .ok each ∧ options.output = some path ∧
        ¬ fileSystem.IsWritable path ∧ failure = .unwritableReport path := by
  cases fails with
  | noTargets hasNone =>
      left
      rw [harvest, targets_eq_error_iff.2 hasNone]
  | target has passed fails => exact .inl (harvest_of_stopped has passed fails.harvest_eq)
  | report has passed output unwritable =>
      obtain ⟨each, given⟩ := exists_harvest_of_passed has passed
      exact .inr ⟨each, _, given, output, unwritable, rfl⟩

/-- A run has one reason to fail. -/
theorem FailsWith.unique {other : Failure} (fails : FailsWith fileSystem options failure)
    (alsoFails : FailsWith fileSystem options other) : failure = other := by
  rcases fails.harvest_cases with stopped | ⟨each, path, given, output, -, rfl⟩
  · rcases alsoFails.harvest_cases with alsoStopped | ⟨_, _, given, -⟩
    · simpa using stopped.symm.trans alsoStopped
    · exact absurd (stopped.symm.trans given) (by simp)
  · rcases alsoFails.harvest_cases with stopped | ⟨_, _, -, alsoOutput, -, rfl⟩
    · exact absurd (given.symm.trans stopped) (by simp)
    · rw [Option.some.inj (output.symm.trans alsoOutput)]

theorem exists_failed_of_failsWith (coloured : Bool)
    (fails : FailsWith fileSystem options failure) :
    ∃ said, withOptions fileSystem coloured options = failed fileSystem said failure := by
  obtain ⟨said, concluded⟩ := exists_withOptions_eq_conclude fileSystem coloured options
  rcases fails.harvest_cases with stopped | ⟨each, path, given, output, unwritable, rfl⟩
  · rw [stopped] at concluded
    exact ⟨said, concluded⟩
  · refine ⟨said ++ warningLines coloured each.warnings, ?_⟩
    rw [concluded, given, conclude, writeReport, output]
    dsimp only
    rw [FileSystem.write?_eq_none_iff.2 unwritable]

theorem exists_faulted_of_meetsFault (coloured : Bool) (meets : MeetsFault fileSystem options) :
    ∃ fault, withOptions fileSystem coloured options = .faulted fault := by
  obtain ⟨before, target, after, has, passed, faults⟩ := meets
  obtain ⟨fault, stopped⟩ := faults.exists_harvest_eq
  obtain ⟨said, concluded⟩ := exists_withOptions_eq_conclude fileSystem coloured options
  rw [harvest_of_stopped has passed stopped] at concluded
  exact ⟨fault, concluded⟩

theorem exists_reportsOnce (coloured : Bool)
    (noFailure : ∀ failure, ¬ FailsWith fileSystem options failure)
    (noFault : ¬ MeetsFault fileSystem options) :
    ∃ each, harvest fileSystem options = .ok each ∧
      ReportsOnce fileSystem options (Report.render options.format coloured each)
        (withOptions fileSystem coloured options) := by
  obtain ⟨all, has, passed⟩ := exists_targets_of_not_stopped noFailure noFault
  obtain ⟨each, given⟩ := exists_harvest_of_passed has passed
  obtain ⟨said, concluded⟩ := exists_withOptions_eq_conclude fileSystem coloured options
  refine ⟨each, given, ?_⟩
  rw [concluded, given]
  exact reportsOnce_writeReport fun path output =>
    Classical.byContradiction fun unwritable =>
      noFailure _ (.report has passed output unwritable)

/-- The run of options fails with the first reason to fail, unless a fault in a
scan is met before; otherwise it succeeds with exactly one report. A run that does
not succeed has printed nothing and changed no file. -/
theorem run_reports_first_failure {arguments : List Bytes} (fileSystem : FileSystem)
    (coloured : Bool) (read : CommandLine.read arguments = .ok (.run options)) :
    (∀ failure, FailsWith fileSystem options failure →
      ∃ said, run fileSystem coloured arguments =
        .finished ⟨1, [], said ++ "Error: ".toList ++ failure.message, fileSystem⟩) ∧
    (MeetsFault fileSystem options →
      ∃ fault, run fileSystem coloured arguments = .faulted fault) ∧
    ((∀ failure, ¬ FailsWith fileSystem options failure) → ¬ MeetsFault fileSystem options →
      ∃ each, harvest fileSystem options = .ok each ∧
        ReportsOnce fileSystem options (Report.render options.format coloured each)
          (run fileSystem coloured arguments)) ∧
    (¬ (run fileSystem coloured arguments).Succeeds →
      (run fileSystem coloured arguments).printed = [] ∧
        (run fileSystem coloured arguments).leaves fileSystem = fileSystem) := by
  have runs : run fileSystem coloured arguments = withOptions fileSystem coloured options := by
    rw [run, read]
  rw [runs]
  refine ⟨fun failure => exists_failed_of_failsWith coloured,
    exists_faulted_of_meetsFault coloured, exists_reportsOnce coloured, fun unsuccessful => ?_⟩
  by_cases fails : ∃ failure, FailsWith fileSystem options failure
  · obtain ⟨failure, fails⟩ := fails
    obtain ⟨said, ends⟩ := exists_failed_of_failsWith coloured fails
    rw [ends]
    exact ⟨rfl, rfl⟩
  · by_cases faults : MeetsFault fileSystem options
    · obtain ⟨fault, ends⟩ := exists_faulted_of_meetsFault coloured faults
      rw [ends]
      exact ⟨rfl, rfl⟩
    · obtain ⟨each, -, reports⟩ :=
        exists_reportsOnce coloured (not_exists.1 fails) faults
      generalize withOptions fileSystem coloured options = result at reports unsuccessful
      cases reports <;> exact absurd rfl unsuccessful

end Reasons

/-- A configuration of a source that does not exist and of one in an unknown
language, and the report of an earlier run. -/
def staleReport : FileSystem where
  entries :=
    [([Utf8.encode "c.json".toList],
        .file (Utf8.encode ("\x7b\"sources\": [\x7b\"local\": \"gone\"\x7d, ".toList ++
          "\x7b\"local\": \"x\", \"language\": \"cobol\"\x7d]\x7d".toList))),
      ([Utf8.encode "out".toList], .file (Utf8.encode "old".toList))]

def staleReportArguments : List Bytes :=
  ["-c".toList, "c.json".toList, "-o".toList, "out".toList].map Utf8.encode

def staleReportOptions : Options :=
  ⟨.ofText ".".toList, some (.ofText "c.json".toList), none, [], [], none, none, none, none,
    .text, some (.ofText "out".toList), false⟩

/-- The unknown language is reported although the source before it is missing, and
the earlier report is kept. -/
theorem run_reports_first_failure_staleReport :
    CommandLine.read staleReportArguments = .ok (.run staleReportOptions) ∧
      ∃ said, run staleReport false staleReportArguments =
        .finished ⟨1, [], said ++ "Error: Unknown language 'cobol' for source x".toList,
          staleReport⟩ := by
  have read : CommandLine.read staleReportArguments = .ok (.run staleReportOptions) := by
    decide +kernel
  have loaded : Config.load staleReport (.ofText "c.json".toList) =
      .ok ⟨none, [⟨"gone".toList, none, none, [], []⟩,
        ⟨"x".toList, some "cobol".toList, none, [], []⟩]⟩ := by
    decide +kernel
  have fails : FailsWith staleReport staleReportOptions
      (.unknownLanguage ⟨"cobol".toList, "x".toList⟩) :=
    .noTargets (.language rfl loaded rfl rfl
      (List.forall_mem_singleton.2 fun _ => nofun) ⟨rfl, rfl⟩)
  obtain ⟨failing, -⟩ := run_reports_first_failure staleReport false read
  obtain ⟨said, ends⟩ := failing _ fails
  refine ⟨read, said, ends.trans ?_⟩
  rw [List.append_assoc]
  rfl

end BacklogTrace.Run
