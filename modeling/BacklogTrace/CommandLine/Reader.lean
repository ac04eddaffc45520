import BacklogTrace.CommandLine.Options

/-!
Contract: reading a command line.

Arguments are read from left to right. A value is attached to its option or is
the next argument, which must not look like an option. Short options can be
written together; one that takes a value takes the rest. After two hyphens every
argument is the path. Asking for help or the version ends the reading, and what
follows is not looked at; what came before has to be right. An option that is
given twice, a value that is not allowed and a missing value are refused, and so
is an owner without a repository or the reverse.

Owns: `CommandLine.read`, `CommandLine.Refusal`.

Does not own: what is done with the options (`Run`).
-/

namespace BacklogTrace.CommandLine

inductive Refusal where
  | unknownOption (argument : Bytes)
  | repeatedOption
  | missingValue (setting : Setting)
  | badValue (setting : Setting) (value : Bytes)
  | unneededValue (switch : Switch)
  | badPath (argument : Bytes)
  | secondPath (argument : Bytes)
  | organizationAlone
  | repositoryAlone
deriving DecidableEq, Repr

structure Draft where
  path : Option Path
  config : Option Path
  language : Option Language
  included : List Text
  excluded : List Text
  gitHubBaseUrl : Option Text
  organization : Option Text
  repository : Option Text
  branch : Option Text
  format : Option Report.Format
  output : Option Path
  verbose : Bool
deriving DecidableEq, Repr

def Draft.empty : Draft :=
  ⟨none, none, none, [], [], none, none, none, none, none, none, false⟩

/-- A path has to be spelled. -/
def pathValue? (value : Bytes) : Option Path :=
  if value.isEmpty then none else some ⟨value⟩

def languageValue? (value : Bytes) : Option Language :=
  if value = Utf8.encode "abap".toList then some .abap
  else if value = Utf8.encode "java".toList then some .java
  else none

def formatValue? (value : Bytes) : Option Report.Format :=
  if value = Utf8.encode "text".toList then some .text
  else if value = Utf8.encode "json".toList then some .json
  else none

def assign {α : Type}
    (setting : Setting)
    (read : Bytes → Option α)
    (present : Option α)
    (store : α → Draft)
    (value : Bytes) :
    Except Refusal Draft :=
  if present.isSome then
    .error .repeatedOption
  else
    match read value with
    | none => .error (.badValue setting value)
    | some read => .ok (store read)

def Draft.set (draft : Draft) (setting : Setting) (value : Bytes) : Except Refusal Draft :=
  match setting with
  | .config =>
      assign setting pathValue? draft.config (fun path => { draft with config := some path }) value
  | .output =>
      assign setting pathValue? draft.output (fun path => { draft with output := some path }) value
  | .language =>
      assign setting languageValue? draft.language
        (fun language => { draft with language := some language }) value
  | .format =>
      assign setting formatValue? draft.format
        (fun format => { draft with format := some format }) value
  | .gitHubBaseUrl =>
      assign setting Utf8.decodeExact? draft.gitHubBaseUrl
        (fun text => { draft with gitHubBaseUrl := some text }) value
  | .organization =>
      assign setting Utf8.decodeExact? draft.organization
        (fun text => { draft with organization := some text }) value
  | .repository =>
      assign setting Utf8.decodeExact? draft.repository
        (fun text => { draft with repository := some text }) value
  | .branch =>
      assign setting Utf8.decodeExact? draft.branch
        (fun text => { draft with branch := some text }) value
  | .include' =>
      assign setting Utf8.decodeExact? none
        (fun text => { draft with included := draft.included ++ [text] }) value
  | .exclude =>
      assign setting Utf8.decodeExact? none
        (fun text => { draft with excluded := draft.excluded ++ [text] }) value

def Draft.setPath (draft : Draft) (argument : Bytes) : Except Refusal Draft :=
  if draft.path.isSome then
    .error (.secondPath argument)
  else
    match pathValue? argument with
    | none => .error (.badPath argument)
    | some path => .ok { draft with path := some path }

inductive Step where
  | next (draft : Draft)
  /-- To the next argument, which is a value. -/
  | awaitValue (draft : Draft) (setting : Setting)
  | stop (request : Request)
deriving DecidableEq, Repr

def Draft.turnOn (draft : Draft) : Switch → Except Refusal Step
  | .verbose =>
      if draft.verbose then .error .repeatedOption else .ok (.next { draft with verbose := true })
  | .help => .ok (.stop .help)
  | .version => .ok (.stop .version)

/-- Reads short options written together. A value may follow an equals sign. -/
def Draft.readShort (draft : Draft) : Bytes → Except Refusal Step
  | [] => .ok (.next draft)
  | byte :: rest =>
      match shortFlags.lookup (Char.ofNat byte.toNat) with
      | none => .error (.unknownOption (byte :: rest))
      | some (.setting setting) =>
          match rest with
          | [] => .ok (.awaitValue draft setting)
          | mark :: value =>
              (draft.set setting (if mark = 0x3d then value else mark :: value)).map Step.next
      | some (.switch switch) =>
          match draft.turnOn switch with
          | .error refusal => .error refusal
          | .ok (.next next) => next.readShort rest
          | .ok step => .ok step

def Draft.readLong (draft : Draft) (argument : Bytes) : Except Refusal Step :=
  let name := argument.takeWhile (· != 0x3d)
  let attached := argument.dropWhile (· != 0x3d)
  match longFlags.lookup (Utf8.decode name) with
  | none => .error (.unknownOption argument)
  | some (.setting setting) =>
      match attached with
      | [] => .ok (.awaitValue draft setting)
      | _ :: value => (draft.set setting value).map Step.next
  | some (.switch switch) =>
      if attached.isEmpty then draft.turnOn switch else .error (.unneededValue switch)

def twoHyphens : Bytes := [0x2d, 0x2d]

def looksLikeOption (argument : Bytes) : Bool :=
  argument.head? == some 0x2d && decide (1 < argument.length)

/-- Reads an argument that is no value. -/
def Draft.readArgument (draft : Draft) (argument : Bytes) : Except Refusal Step :=
  match twoHyphens.isPrefixOf? argument with
  | some long => draft.readLong long
  | none =>
      if looksLikeOption argument then
        draft.readShort (argument.drop 1)
      else
        (draft.setPath argument).map Step.next

def Draft.finish (draft : Draft) : Except Refusal Request :=
  if draft.organization.isSome && draft.repository.isNone then
    .error .organizationAlone
  else if draft.repository.isSome && draft.organization.isNone then
    .error .repositoryAlone
  else
    .ok (.run
      { path := draft.path.getD ⟨[Path.dot]⟩
        config := draft.config
        language := draft.language
        included := draft.included
        excluded := draft.excluded
        gitHubBaseUrl := draft.gitHubBaseUrl
        organization := draft.organization
        repository := draft.repository
        branch := draft.branch
        format := draft.format.getD .text
        output := draft.output
        verbose := draft.verbose })

/-- Reads arguments after two hyphens. -/
def Draft.readPaths (draft : Draft) : List Bytes → Except Refusal Request
  | [] => draft.finish
  | argument :: arguments =>
      match draft.setPath argument with
      | .error refusal => .error refusal
      | .ok next => next.readPaths arguments

/-- Reads arguments, the first of which may be awaited as a value. -/
def Draft.readAll (draft : Draft) (awaited : Option Setting) :
    List Bytes → Except Refusal Request
  | [] =>
      match awaited with
      | none => draft.finish
      | some setting => .error (.missingValue setting)
  | argument :: arguments =>
      match awaited with
      | some setting =>
          if looksLikeOption argument then
            .error (.missingValue setting)
          else
            match draft.set setting argument with
            | .error refusal => .error refusal
            | .ok next => next.readAll none arguments
      | none =>
          if argument = twoHyphens then
            draft.readPaths arguments
          else
            match draft.readArgument argument with
            | .error refusal => .error refusal
            | .ok (.next next) => next.readAll none arguments
            | .ok (.awaitValue next setting) => next.readAll (some setting) arguments
            | .ok (.stop request) => .ok request

def read (arguments : List Bytes) : Except Refusal Request :=
  Draft.empty.readAll none arguments

end BacklogTrace.CommandLine
