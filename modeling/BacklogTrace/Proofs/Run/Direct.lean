import BacklogTrace.Proofs.CommandLine.Written
import BacklogTrace.Proofs.Run.Harvest
import BacklogTrace.Proofs.Run.Targets

/-!
Contract: the run of a configuration, source by source.

What a configuration says of a source can be said by options, and the run with
these options scans the source directly. The run of the configuration harvests
what the direct runs of its sources harvest, one after the other, and is stopped
by what stops the first of them that is stopped.

Owns: `Run.IsDirect`.

Does not own: what a run harvests (`Proofs.Run.Harvest`), how options are written
(`Proofs.CommandLine.Written`).
-/

namespace BacklogTrace.Run

open CommandLine (Options)

variable {fileSystem : FileSystem} {options direct : Options} {config : Config}
  {directory : Path} {source : SourceEntry}

/-- Options that scan a source of a configuration directly. Where a run of the
configuration has a language or a base address among its own options, so has the
direct one. What hosts the source is given only where the source is hosted. -/
structure IsDirect (options : Options) (config : Config) (directory : Path) (source : SourceEntry)
    (direct : Options) : Prop where
  unconfigured : direct.config = none
  path : direct.path = directory.join (.ofText source.localPath)
  givenLanguage : options.language ≠ none → direct.language = options.language
  sourceLanguage : options.language = none → source.language = .ok direct.language
  included : direct.included = source.included
  excluded : direct.excluded = source.excluded
  hosted : ∀ hosting, source.hosting = some hosting →
    direct.organization = some hosting.organization ∧
      direct.repository = some hosting.repository ∧ direct.branch = hosting.branch ∧
        direct.gitHubBaseUrl = options.gitHubBaseUrl.or config.gitHubBaseUrl
  unhosted : source.hosting = none → direct.organization = none ∧ direct.repository = none

/-- A source whose language is known can be scanned directly, and the report can
go anywhere. A command line asks for it unless the source has no path at all. -/
theorem exists_isDirect (options : Options) (config : Config) (directory : Path)
    (known : options.language = none → ∃ language, source.language = .ok language)
    (format : Report.Format) (output : Option Path)
    (spelled : ∀ path, output = some path → path.spelling ≠ []) :
    ∃ direct, IsDirect options config directory source direct ∧ direct.format = format ∧
      direct.output = output ∧
        (direct.path.spelling ≠ [] →
          ∃ arguments, CommandLine.read arguments = .ok (.run direct)) := by
  obtain ⟨language, given, ofSource⟩ : ∃ language : Option Language,
      (options.language ≠ none → language = options.language) ∧
        (options.language = none → source.language = .ok language) := by
    cases wanted : options.language with
    | none =>
        obtain ⟨language, ofSource⟩ := known wanted
        exact ⟨language, fun some => absurd rfl some, fun _ => ofSource⟩
    | some language => exact ⟨some language, fun _ => rfl, nofun⟩
  refine ⟨⟨directory.join (.ofText source.localPath), none, language, source.included,
    source.excluded, options.gitHubBaseUrl.or config.gitHubBaseUrl,
    source.hosting.map Hosting.organization, source.hosting.map Hosting.repository,
    source.hosting.bind Hosting.branch, format, output, options.verbose⟩, ?_, rfl, rfl, ?_⟩
  · refine ⟨rfl, rfl, given, ofSource, rfl, rfl, ?_, ?_⟩
    · intro hosting hosted
      simp [hosted]
    · intro unhosted
      simp [unhosted]
  · intro path
    exact ⟨_, CommandLine.read_written ⟨path, nofun, spelled, by simp⟩⟩

/-! ## Targets -/

theorem IsDirect.location_eq (isDirect : IsDirect options config directory source direct) :
    source.location (linkRoot fileSystem (source.root directory))
        (options.gitHubBaseUrl.or config.gitHubBaseUrl) =
      (targetOfOptions fileSystem direct).location := by
  rw [SourceEntry.location, SourceEntry.root, ← isDirect.path, targetOfOptions]
  cases hosted : source.hosting with
  | none =>
      obtain ⟨organization, repository⟩ := isDirect.unhosted hosted
      rw [organization, repository]
  | some hosting =>
      obtain ⟨organization, repository, branch, baseUrl⟩ := isDirect.hosted hosting hosted
      rw [organization, repository, branch, baseUrl]

/-- The configuration and the direct options lead to the same target: the same
root, the same filter and the same links. -/
theorem IsDirect.targetOfSource_eq (isDirect : IsDirect options config directory source direct) :
    targetOfSource fileSystem options config directory source =
      .ok (targetOfOptions fileSystem direct) := by
  have root : source.root directory = direct.path := isDirect.path.symm
  unfold targetOfSource
  dsimp only
  rw [isDirect.location_eq, root, ← isDirect.included, ← isDirect.excluded]
  cases given : options.language with
  | none =>
      dsimp only
      rw [isDirect.sourceLanguage given]
      rfl
  | some language =>
      have same : direct.language = some language :=
        (isDirect.givenLanguage (by simp [given])).trans given
      dsimp only
      rw [← same]
      rfl

theorem targetsOfSources_of_isDirect {sources : List SourceEntry} {directs : List Options}
    (isDirect : List.Forall₂ (IsDirect options config directory) sources directs) :
    targetsOfSources fileSystem options config directory sources =
      .ok (directs.map (targetOfOptions fileSystem)) := by
  rw [targetsOfSources_eq_mapM, Traversal.mapM_eq_ok_iff, List.forall₂_map_right_iff]
  exact isDirect.imp fun _ _ => IsDirect.targetOfSource_eq

/-! ## Harvests -/

section Harvests

variable [FileSearch]

/-- A run without a configuration has one target. -/
theorem harvest_of_unconfigured (unconfigured : direct.config = none) :
    harvest fileSystem direct = (targetOfOptions fileSystem direct).harvest fileSystem := by
  rw [harvest, targets, unconfigured]
  dsimp only
  cases given : (targetOfOptions fileSystem direct).harvest fileSystem with
  | error stop => rw [Traversal.mapM_cons_of_error given]; rfl
  | ok harvest =>
      rw [Traversal.mapM_cons_of_ok given]
      exact congrArg Except.ok (Harvest.append_empty harvest)

/-- The run of a configuration goes through the direct runs of its sources. -/
theorem harvest_of_configured {path : Path} {directs : List Options}
    (given : options.config = some path) (loaded : Config.load fileSystem path = .ok config)
    (isDirect : List.Forall₂ (IsDirect options config (path.parent?.getD ⟨[]⟩)) config.sources
      directs) :
    harvest fileSystem options = (directs.mapM (harvest fileSystem)).map Harvest.join := by
  have targetsOfDirects : targets fileSystem options =
      .ok (directs.map (targetOfOptions fileSystem)) := by
    rw [targets, given]
    dsimp only
    rw [targetsOfConfig, loaded]
    dsimp only
    rw [targetsOfSources_of_isDirect isDirect]
  have unconfigured : ∀ direct ∈ directs, direct.config = none := by
    intro direct member
    obtain ⟨source, -, ofSource⟩ := Traversal.exists_of_mem isDirect.flip direct member
    exact ofSource.unconfigured
  rw [harvest, targetsOfDirects]
  dsimp only
  refine congrArg (Except.map Harvest.join) (Traversal.mapM_congr ?_).symm
  rw [List.forall₂_map_right_iff, List.forall₂_same]
  exact fun direct member => harvest_of_unconfigured (unconfigured direct member)

/-- The run of a configuration is its direct runs one after the other. If each of
them has a harvest, it has their records and their warnings in the order of the
sources; otherwise it is stopped by what stops the first of them that has none. A
run says how it is stopped, and reports its records, whether it is direct or of a
configuration. -/
theorem configured_run_joins_direct_runs {path : Path}
    (given : options.config = some path) (loaded : Config.load fileSystem path = .ok config)
    (known : options.language = none →
      ∀ source ∈ config.sources, ∃ language, source.language = .ok language) :
    (∀ format output, (∀ path, output = some path → path.spelling ≠ []) →
      ∃ directs, List.Forall₂ (fun source direct =>
        IsDirect options config (path.parent?.getD ⟨[]⟩) source direct ∧ direct.format = format ∧
          direct.output = output ∧
            (direct.path.spelling ≠ [] →
              ∃ arguments, CommandLine.read arguments = .ok (.run direct)))
        config.sources directs) ∧
    (∀ directs,
      List.Forall₂ (IsDirect options config (path.parent?.getD ⟨[]⟩)) config.sources directs →
        (∀ harvests,
          List.Forall₂ (fun direct each => harvest fileSystem direct = .ok each) directs harvests →
            harvest fileSystem options =
              .ok ⟨harvests.flatMap Harvest.records, harvests.flatMap Harvest.warnings⟩) ∧
        ∀ before direct after stop, directs = before ++ direct :: after →
          (∀ earlier ∈ before, ∃ each, harvest fileSystem earlier = .ok each) →
            harvest fileSystem direct = .error stop →
              harvest fileSystem options = .error stop) ∧
    ∀ (coloured : Bool) (arguments : List Bytes) (any : Options),
      CommandLine.read arguments = .ok (.run any) →
        ∃ said, run fileSystem coloured arguments =
          match harvest fileSystem any with
          | .error (.fault fault) => .faulted fault
          | .error (.failure failure) =>
              .finished ⟨1, [], said ++ "Error: ".toList ++ failure.message, fileSystem⟩
          | .ok each => writeReport fileSystem coloured any said each := by
  refine ⟨fun format output spelled => ?_,
    fun directs isDirect => ⟨fun harvests harvested => ?_, ?_⟩,
    fun coloured arguments any read => ?_⟩
  · exact Traversal.exists_forall₂ fun source member =>
      exists_isDirect options config _ (fun none => known none source member) format output spelled
  · rw [harvest_of_configured given loaded isDirect, Traversal.mapM_eq_ok_iff.2 harvested]
    exact congrArg Except.ok (Harvest.join_eq harvests)
  · intro before direct after stop split passed stopped
    rw [harvest_of_configured given loaded isDirect,
      Traversal.mapM_eq_error_iff.2 ⟨before, direct, after, split, passed, stopped⟩]
    rfl
  · obtain ⟨said, concluded⟩ := exists_withOptions_eq_conclude fileSystem coloured any
    refine ⟨said, ?_⟩
    rw [run, read]
    dsimp only
    rw [concluded]
    rcases harvest fileSystem any with (failure | fault) | each <;> rfl

end Harvests

/-- A configuration of a hosted file and of a file in no language. -/
def twoSources : FileSystem where
  entries :=
    [([Utf8.encode "c.json".toList],
        .file (Utf8.encode ("\x7b\"sources\": [\x7b\"local\": \"a.java\", ".toList ++
          "\"git\": \x7b\"organization\": \"o\", \"repository\": \"r\"\x7d\x7d, ".toList ++
          "\x7b\"local\": \"b.txt\"\x7d]\x7d".toList))),
      ([Utf8.encode "a.java".toList],
        .file (Utf8.encode "class A \x7b\n// Trace(Jira:A-1)\n@Test\nvoid first() \x7b".toList)),
      ([Utf8.encode "b.txt".toList], .file [])]

def twoSourcesConfig : Config :=
  ⟨none, [⟨"a.java".toList, none, some ⟨"o".toList, "r".toList, none⟩, [], []⟩,
    ⟨"b.txt".toList, none, none, [], []⟩]⟩

/-- Options with a path and nothing else. -/
def plainOptions (path : Path) : Options :=
  ⟨path, none, none, [], [], none, none, none, none, .text, none, false⟩

def twoSourcesOptions : Options :=
  { plainOptions (.ofText ".".toList) with config := some (.ofText "c.json".toList) }

/-- The direct runs of the two sources give what the configuration gives. -/
theorem configured_run_joins_direct_runs_twoSources :
    Config.load twoSources (.ofText "c.json".toList) = .ok twoSourcesConfig ∧
      (∀ source ∈ twoSourcesConfig.sources, ∃ language, source.language = .ok language) ∧
      harvest twoSources twoSourcesOptions =
        .ok ⟨[⟨⟨"https://github.com/o/r/blob/master/a.java".toList, "A".toList, "first".toList⟩,
            [⟨"A-1".toList, .jira⟩]⟩],
          ["Skipped b.txt: unsupported file type".toList]⟩ := by
  have loaded : Config.load twoSources (.ofText "c.json".toList) = .ok twoSourcesConfig := by
    decide +kernel
  have known : ∀ source ∈ twoSourcesConfig.sources,
      ∃ language, source.language = .ok language :=
    List.forall_mem_cons.2 ⟨⟨none, rfl⟩, List.forall_mem_singleton.2 ⟨none, rfl⟩⟩
  have given : twoSourcesOptions.config = some (.ofText "c.json".toList) := rfl
  obtain ⟨-, joins, -⟩ := configured_run_joins_direct_runs given loaded fun _ => known
  have scansHosted : IsDirect twoSourcesOptions twoSourcesConfig ⟨[]⟩
      ⟨"a.java".toList, none, some ⟨"o".toList, "r".toList, none⟩, [], []⟩
      { plainOptions (.ofText "a.java".toList) with
        organization := some "o".toList, repository := some "r".toList } :=
    { unconfigured := rfl
      path := rfl
      givenLanguage := nofun
      sourceLanguage := fun _ => rfl
      included := rfl
      excluded := rfl
      hosted := by
        rintro _ ⟨⟩
        exact ⟨rfl, rfl, rfl, rfl⟩
      unhosted := nofun }
  have scansOther : IsDirect twoSourcesOptions twoSourcesConfig ⟨[]⟩
      ⟨"b.txt".toList, none, none, [], []⟩ (plainOptions (.ofText "b.txt".toList)) :=
    { unconfigured := rfl
      path := rfl
      givenLanguage := nofun
      sourceLanguage := fun _ => rfl
      included := rfl
      excluded := rfl
      hosted := nofun
      unhosted := fun _ => ⟨rfl, rfl⟩ }
  obtain ⟨harvested, -⟩ := joins _ (.cons scansHosted (.cons scansOther .nil))
  exact ⟨loaded, known, harvested _ (.cons rfl (.cons rfl .nil))⟩

end BacklogTrace.Run
