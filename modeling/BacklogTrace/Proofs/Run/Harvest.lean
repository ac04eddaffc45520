import BacklogTrace.Proofs.Harvest.Paths

/-!
Contract: what a run harvests, apart from what it says on the way.

Each target has its own harvest, or stops the run. The harvest of a run is that of
its targets, one after the other, or what the first target that stops it stops it
with. A run is determined by its harvest, up to what it has said before its end.

Owns: `Run.Target.harvest`, `Run.harvest`, `Run.conclude`.

Does not own: when a target stops a run (`Proofs.Run.Failure`).
-/

namespace BacklogTrace.Run

open CommandLine (Options)

variable [FileSearch] {fileSystem : FileSystem} {coloured : Bool} {options : Options}

/-- The harvest of a target, or what stops a run at it. -/
def Target.harvest (fileSystem : FileSystem) (target : Target) : Except Stop Harvest :=
  if fileSystem.pathExists target.root then
    match harvestTarget fileSystem target with
    | .error fault => .error (.ofHarvest fault)
    | .ok harvest => .ok harvest
  else
    .error (.failure (.missingRoot target.root))

theorem outcome_scanTarget (target : Target) :
    (scanTarget fileSystem coloured target).outcome = target.harvest fileSystem := by
  rw [scanTarget, Target.harvest]
  split
  · cases harvestTarget fileSystem target <;> rfl
  · rfl

/-- Targets are scanned one after the other, and the first that stops the run is
the last one scanned. -/
theorem outcome_scanTargets (targets : List Target) :
    (scanTargets fileSystem coloured targets).outcome =
      (targets.mapM (Target.harvest fileSystem)).map Harvest.join := by
  induction targets with
  | nil => rfl
  | cons target targets inductionHypothesis =>
      rw [scanTargets, outcome_scanTarget]
      cases given : target.harvest fileSystem with
      | error stop => rw [Traversal.mapM_cons_of_error given]; rfl
      | ok harvest =>
          dsimp only
          rw [inductionHypothesis, Traversal.mapM_cons_of_ok given]
          cases targets.mapM (Target.harvest fileSystem) <;> rfl

/-- The harvest of a run, or what stops it before its report. -/
def harvest (fileSystem : FileSystem) (options : Options) : Except Stop Harvest :=
  match targets fileSystem options with
  | .error failure => .error (.failure failure)
  | .ok targets => (targets.mapM (Target.harvest fileSystem)).map Harvest.join

/-- How a run ends that has said something and harvested something. -/
def conclude (fileSystem : FileSystem) (coloured : Bool) (options : Options) (said : Text) :
    Except Stop Harvest → Result
  | .error (.failure failure) => failed fileSystem said failure
  | .error (.fault fault) => .faulted fault
  | .ok harvest => writeReport fileSystem coloured options said harvest

/-- A run is concluded from its harvest. -/
theorem exists_withOptions_eq_conclude (fileSystem : FileSystem) (coloured : Bool)
    (options : Options) :
    ∃ said, withOptions fileSystem coloured options =
      conclude fileSystem coloured options said (harvest fileSystem options) := by
  rw [withOptions, harvest]
  cases targets fileSystem options with
  | error failure => exact ⟨[], rfl⟩
  | ok targets =>
      refine ⟨(scanTargets fileSystem coloured targets).log, ?_⟩
      dsimp only
      rw [outcome_scanTargets]
      cases (targets.mapM (Target.harvest fileSystem)).map Harvest.join with
      | error stop => cases stop <;> rfl
      | ok harvest => rfl

end BacklogTrace.Run
