import BacklogTrace.CommandLine.Reader
import BacklogTrace.Config.File
import BacklogTrace.FileSearch.Standard
import BacklogTrace.Harvest.Files

/-!
Contract: one run of the program, from its arguments to what it leaves behind.

A run turns its options or its configuration into targets, scans one target
after the other, and writes one report of all of them, to standard output or to
a file. What is said on the way goes to standard error. The languages of all
targets are known before the first is scanned; whether a target exists is found
out when its turn comes. A run that fails has written nothing.

Runs take any search for files, and the standard one unless another is given.

Owns: `Run.Target`, `Run.Failure`, `Run.Result`, `run`.

Does not own: reading arguments (`CommandLine.read`), the outside world (`Main`).
-/

namespace BacklogTrace

namespace Run

open CommandLine (Options Request)

structure Target where
  root : Path
  language : Option Language
  included : List Text
  excluded : List Text
  location : Location
deriving DecidableEq, Repr

inductive Failure where
  | config (fault : Config.Fault)
  | unknownLanguage (unknown : SourceEntry.UnknownLanguage)
  | missingRoot (root : Path)
  | badPattern (bad : Glob.BadPattern)
  | unreadableFile (path : Path)
  | unwritableReport (path : Path)
deriving DecidableEq, Repr

def Failure.message : Failure → Text
  | .config fault => fault.message
  | .unknownLanguage unknown => unknown.message
  | .missingRoot root => "Source path not found: ".toList ++ root.shown
  | .badPattern bad => bad.message
  | .unreadableFile path => "Failed to read ".toList ++ path.shown
  | .unwritableReport path => "Failed to write ".toList ++ path.shown

inductive Stop where
  | failure (failure : Failure)
  | fault (fault : ScanFault)
deriving DecidableEq, Repr

/-- What stops a run when a harvest is not to be had. -/
def Stop.ofHarvest : Harvest.Fault → Stop
  | .scan cause => .fault cause
  | .unreadableFile path => .failure (.unreadableFile path)
  | .badPattern bad => .failure (.badPattern bad)

/-- The root below which the files of a target are linked: a single file is
linked by its name. -/
def linkRoot (fileSystem : FileSystem) (root : Path) : Path :=
  if fileSystem.isFile root then root.parent?.getD ⟨[]⟩ else root

def targetOfOptions (fileSystem : FileSystem) (options : Options) : Target where
  root := options.path
  language := options.language
  included := options.included
  excluded := options.excluded
  location :=
    match options.organization, options.repository with
    | some organization, some repository =>
        .hosted (.make organization repository options.gitHubBaseUrl options.branch)
          (linkRoot fileSystem options.path)
    | _, _ => .below (linkRoot fileSystem options.path)

/-- The target of a source, in which options go before the configuration. -/
def targetOfSource
    (fileSystem : FileSystem)
    (options : Options)
    (config : Config)
    (directory : Path)
    (source : SourceEntry) :
    Except SourceEntry.UnknownLanguage Target :=
  let root := source.root directory
  let language : Except SourceEntry.UnknownLanguage (Option Language) :=
    match options.language with
    | some language => .ok (some language)
    | none => source.language
  match language with
  | .error unknown => .error unknown
  | .ok language =>
      .ok
        { root := root
          language := language
          included := source.included
          excluded := source.excluded
          location :=
            source.location (linkRoot fileSystem root)
              (options.gitHubBaseUrl.or config.gitHubBaseUrl) }

def targetsOfSources
    (fileSystem : FileSystem)
    (options : Options)
    (config : Config)
    (directory : Path) :
    List SourceEntry → Except SourceEntry.UnknownLanguage (List Target)
  | [] => .ok []
  | source :: sources =>
      match targetOfSource fileSystem options config directory source with
      | .error unknown => .error unknown
      | .ok target =>
          match targetsOfSources fileSystem options config directory sources with
          | .error unknown => .error unknown
          | .ok targets => .ok (target :: targets)

/-- The targets of a configuration file. Its directory is where the checkouts
are; a path that leads to a file always has one. -/
def targetsOfConfig (fileSystem : FileSystem) (options : Options) (path : Path) :
    Except Failure (List Target) :=
  match Config.load fileSystem path with
  | .error fault => .error (.config fault)
  | .ok config =>
      match targetsOfSources fileSystem options config (path.parent?.getD ⟨[]⟩)
          config.sources with
      | .error unknown => .error (.unknownLanguage unknown)
      | .ok targets => .ok targets

def targets (fileSystem : FileSystem) (options : Options) : Except Failure (List Target) :=
  match options.config with
  | none => .ok [targetOfOptions fileSystem options]
  | some path => targetsOfConfig fileSystem options path

/-- The harvest of a target that exists. -/
def harvestTarget [FileSearch] (fileSystem : FileSystem) (target : Target) :
    Except Harvest.Fault Harvest :=
  if fileSystem.isFile target.root then
    Harvest.ofPaths fileSystem target.location.link target.language [target.root]
  else
    Harvest.ofTree fileSystem target.location.link target.language target.included
      target.excluded target.root

/-- What is said before a target is scanned. -/
def scanningLine (coloured : Bool) (root : Path) : Text :=
  Style.blue.wrap coloured "->".toList ++ " Scanning ".toList ++ root.shown ++ "...\n".toList

/-- What is said after a target has been scanned. -/
def foundLine (coloured : Bool) (count : Nat) : Text :=
  "   Found ".toList ++ Style.green.wrap coloured (Text.ofNat count) ++
    " traced tests\n".toList

/-- What is said about files that were passed over. -/
def warningLines (coloured : Bool) (warnings : List Text) : Text :=
  if warnings.isEmpty then
    []
  else
    Style.yellow.wrap coloured ['!'] ++ ' ' :: Text.ofNat warnings.length ++
      " files skipped:\n".toList ++
      warnings.flatMap fun warning => "   ".toList ++ warning ++ ['\n']

/-- What is said after the report has been written to a file. -/
def wroteLine (coloured : Bool) (count : Nat) (path : Path) : Text :=
  Style.green.wrap coloured "OK".toList ++ " Wrote ".toList ++ Text.ofNat count ++
    " traced tests to ".toList ++ path.shown ++ ['\n']

/-- What has been said, and what has come of it. -/
structure Told (α : Type) where
  log : Text
  outcome : Except Stop α
deriving Repr

def scanTarget [FileSearch] (fileSystem : FileSystem) (coloured : Bool) (target : Target) :
    Told Harvest :=
  if fileSystem.pathExists target.root then
    match harvestTarget fileSystem target with
    | .error fault => ⟨scanningLine coloured target.root, .error (.ofHarvest fault)⟩
    | .ok harvest =>
        ⟨scanningLine coloured target.root ++ foundLine coloured harvest.records.length,
          .ok harvest⟩
  else
    ⟨[], .error (.failure (.missingRoot target.root))⟩

/-- Scans targets one after the other, up to the first that stops the run. -/
def scanTargets [FileSearch] (fileSystem : FileSystem) (coloured : Bool) :
    List Target → Told Harvest
  | [] => ⟨[], .ok .empty⟩
  | target :: targets =>
      let first := scanTarget fileSystem coloured target
      match first.outcome with
      | .error stop => ⟨first.log, .error stop⟩
      | .ok harvest =>
          let rest := scanTargets fileSystem coloured targets
          ⟨first.log ++ rest.log, rest.outcome.map fun others => harvest ++ others⟩

structure Outcome where
  exitCode : Nat
  output : Text
  log : Text
  fileSystem : FileSystem
deriving Repr

inductive Result where
  /-- The command line is not understood; nothing is done. -/
  | refused (refusal : CommandLine.Refusal)
  /-- A scan met a fault; nothing is written. -/
  | faulted (fault : ScanFault)
  | finished (outcome : Outcome)
deriving Repr

/-- How a run fails: with its message alone, not with what caused it. -/
def failed (fileSystem : FileSystem) (log : Text) (failure : Failure) : Result :=
  .finished ⟨1, [], log ++ "Error: ".toList ++ failure.message, fileSystem⟩

def writeReport
    (fileSystem : FileSystem)
    (coloured : Bool)
    (options : Options)
    (log : Text)
    (harvest : Harvest) :
    Result :=
  let said := log ++ warningLines coloured harvest.warnings
  let report := Report.render options.format coloured harvest
  match options.output with
  | none => .finished ⟨0, report, said, fileSystem⟩
  | some path =>
      match fileSystem.write? path (Utf8.encode report) with
      | none => failed fileSystem said (.unwritableReport path)
      | some written =>
          .finished ⟨0, [], said ++ wroteLine coloured harvest.records.length path, written⟩

def withOptions [FileSearch] (fileSystem : FileSystem) (coloured : Bool) (options : Options) :
    Result :=
  match targets fileSystem options with
  | .error failure => failed fileSystem [] failure
  | .ok targets =>
      let told := scanTargets fileSystem coloured targets
      match told.outcome with
      | .error (.fault fault) => .faulted fault
      | .error (.failure failure) => failed fileSystem told.log failure
      | .ok harvest => writeReport fileSystem coloured options told.log harvest

def versionLine : Text := "ctm 1.0.0\n".toList

def usageLine : Text := "Usage: ctm [OPTIONS] [PATH]\n".toList

end Run

def run [FileSearch] (fileSystem : FileSystem) (coloured : Bool) (arguments : List Bytes) :
    Run.Result :=
  match CommandLine.read arguments with
  | .error refusal => .refused refusal
  | .ok .help => .finished ⟨0, Run.usageLine, [], fileSystem⟩
  | .ok .version => .finished ⟨0, Run.versionLine, [], fileSystem⟩
  | .ok (.run options) => Run.withOptions fileSystem coloured options

end BacklogTrace
