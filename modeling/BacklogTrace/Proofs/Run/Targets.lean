import BacklogTrace.Proofs.Config.File
import BacklogTrace.Proofs.Traversal
import BacklogTrace.Run

/-!
Contract: the targets of a run, and why a run has none.

A run has no targets if its configuration cannot be loaded, or if no language is
given and a source of the configuration names one that is unknown; the first such
source is reported. Nothing else is asked of a source before its turn comes.

Owns: `SourceEntry.NamesUnknown`, `Run.HasNoTargets`.

Does not own: what becomes of a target (`Proofs.Run.Harvest`).
-/

namespace BacklogTrace

/-- A source names a language that no dialect has. -/
def SourceEntry.NamesUnknown (source : SourceEntry) (name : Text) : Prop :=
  source.languageName = some name ∧ Language.ofName? name = none

namespace Run

open CommandLine (Options)

variable {fileSystem : FileSystem} {options : Options} {config : Config} {directory : Path}
  {source : SourceEntry} {unknown : SourceEntry.UnknownLanguage}

theorem language_eq_error_iff :
    source.language = .error unknown ↔
      ∃ name, source.NamesUnknown name ∧ unknown = ⟨name, source.localPath⟩ := by
  rw [SourceEntry.language]
  unfold SourceEntry.NamesUnknown
  cases source.languageName with
  | none => simp
  | some name =>
      dsimp only
      cases found : Language.ofName? name with
      | none => simp [found, eq_comm (a := unknown)]
      | some language => simp [found]

/-- The language of a source matters only where none is given. -/
theorem targetOfSource_eq_error_iff :
    targetOfSource fileSystem options config directory source = .error unknown ↔
      options.language = none ∧ source.language = .error unknown := by
  unfold targetOfSource
  cases options.language with
  | some language => simp
  | none => cases source.language <;> simp

theorem targetsOfSources_eq_mapM (sources : List SourceEntry) :
    targetsOfSources fileSystem options config directory sources =
      sources.mapM (targetOfSource fileSystem options config directory) := by
  induction sources with
  | nil => rfl
  | cons source sources inductionHypothesis =>
      rw [targetsOfSources, inductionHypothesis]
      cases given : targetOfSource fileSystem options config directory source with
      | error unknown => exact (Traversal.mapM_cons_of_error given sources).symm
      | ok target =>
          rw [Traversal.mapM_cons_of_ok given]
          cases sources.mapM (targetOfSource fileSystem options config directory) <;> rfl

/-- Why a run has no targets. -/
inductive HasNoTargets (fileSystem : FileSystem) (options : Options) : Failure → Prop
  | config {path : Path} {fault : Config.Fault}
      (given : options.config = some path) (fails : Config.LoadFails fileSystem path fault) :
      HasNoTargets fileSystem options (.config fault)
  | language {path : Path} {config : Config} {before after : List SourceEntry}
      {source : SourceEntry} {name : Text}
      (given : options.config = some path) (loaded : Config.load fileSystem path = .ok config)
      (anyLanguage : options.language = none)
      (shape : config.sources = before ++ source :: after)
      (known : ∀ earlier ∈ before, ∀ name, ¬ earlier.NamesUnknown name)
      (unknown : source.NamesUnknown name) :
      HasNoTargets fileSystem options (.unknownLanguage ⟨name, source.localPath⟩)

theorem exists_targetOfSource_eq_ok_iff (anyLanguage : options.language = none) :
    (∃ target, targetOfSource fileSystem options config directory source = .ok target) ↔
      ∀ name, ¬ source.NamesUnknown name := by
  constructor
  · rintro ⟨target, given⟩ name unknown
    have failed : targetOfSource fileSystem options config directory source =
        .error ⟨name, source.localPath⟩ :=
      targetOfSource_eq_error_iff.2 ⟨anyLanguage, language_eq_error_iff.2 ⟨name, unknown, rfl⟩⟩
    exact absurd (given.symm.trans failed) (by simp)
  · intro known
    cases given : targetOfSource fileSystem options config directory source with
    | ok target => exact ⟨target, rfl⟩
    | error unknown =>
        obtain ⟨name, names, -⟩ :=
          language_eq_error_iff.1 (targetOfSource_eq_error_iff.1 given).2
        exact absurd names (known name)

/-- The first source that names an unknown language is reported, if no language is
given. -/
theorem targetsOfSources_eq_error_iff {sources : List SourceEntry} :
    targetsOfSources fileSystem options config directory sources = .error unknown ↔
      options.language = none ∧ ∃ before source after name, sources = before ++ source :: after ∧
        (∀ earlier ∈ before, ∀ name, ¬ earlier.NamesUnknown name) ∧ source.NamesUnknown name ∧
          unknown = ⟨name, source.localPath⟩ := by
  rw [targetsOfSources_eq_mapM, Traversal.mapM_eq_error_iff]
  constructor
  · rintro ⟨before, source, after, shape, passed, stopped⟩
    obtain ⟨anyLanguage, ofSource⟩ := targetOfSource_eq_error_iff.1 stopped
    obtain ⟨name, names, same⟩ := language_eq_error_iff.1 ofSource
    exact ⟨anyLanguage, before, source, after, name, shape, fun earlier member =>
      (exists_targetOfSource_eq_ok_iff anyLanguage).1 (passed earlier member), names, same⟩
  · rintro ⟨anyLanguage, before, source, after, name, shape, known, names, same⟩
    exact ⟨before, source, after, shape, fun earlier member =>
      (exists_targetOfSource_eq_ok_iff anyLanguage).2 (known earlier member),
      targetOfSource_eq_error_iff.2 ⟨anyLanguage, language_eq_error_iff.2 ⟨name, names, same⟩⟩⟩

/-- A run has its targets unless there is one of these reasons. -/
theorem targets_eq_error_iff {failure : Failure} :
    targets fileSystem options = .error failure ↔ HasNoTargets fileSystem options failure := by
  constructor
  · intro failed
    rw [targets] at failed
    cases given : options.config with
    | none => simp [given] at failed
    | some path =>
        simp only [given, targetsOfConfig] at failed
        cases loaded : Config.load fileSystem path with
        | error fault =>
            simp only [loaded, Except.error.injEq] at failed
            exact failed ▸ .config given (Config.load_eq_error_iff.1 loaded)
        | ok config =>
            simp only [loaded] at failed
            cases each : targetsOfSources fileSystem options config (path.parent?.getD ⟨[]⟩)
                config.sources with
            | ok targets => simp [each] at failed
            | error unknown =>
                simp only [each, Except.error.injEq] at failed
                obtain ⟨anyLanguage, before, source, after, name, shape, known, names, rfl⟩ :=
                  targetsOfSources_eq_error_iff.1 each
                exact failed ▸ .language given loaded anyLanguage shape known names
  · intro hasNone
    cases hasNone with
    | config given fails =>
        rw [targets, given]
        dsimp only
        rw [targetsOfConfig, Config.load_eq_error_iff.2 fails]
    | language given loaded anyLanguage shape known unknown =>
        rw [targets, given]
        dsimp only
        rw [targetsOfConfig, loaded]
        dsimp only
        rw [targetsOfSources_eq_error_iff.2
          ⟨anyLanguage, _, _, _, _, shape, known, unknown, rfl⟩]

end Run

end BacklogTrace
