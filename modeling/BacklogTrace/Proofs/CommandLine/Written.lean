import BacklogTrace.CommandLine.Reader
import Mathlib.Data.List.Basic

/-!
Contract: a command line for given options.

Every option is written in its long form with its value attached, one setting after
the other, and the path comes last, after two hyphens. What is written is read back
as the options it was written from, whatever bytes their paths have.

Owns: `CommandLine.Options.IsWellFormed`, `CommandLine.Options.written`.

Does not own: other ways to write the same options (`CommandLine.Reader`).
-/

namespace BacklogTrace.CommandLine

variable {options : Options} {draft next : Draft} {setting : Setting} {settings : List Setting}

/-- Options that a command line can ask for: paths are spelled, and an owner comes
with a repository. -/
structure Options.IsWellFormed (options : Options) : Prop where
  path : options.path.spelling ≠ []
  config : ∀ path, options.config = some path → path.spelling ≠ []
  output : ∀ path, options.output = some path → path.spelling ≠ []
  hosting : options.organization.isSome = options.repository.isSome

/-! ## One argument -/

/-- The long name of a setting. -/
def Setting.name : Setting → Text
  | .config => "config".toList
  | .language => "language".toList
  | .include' => "include".toList
  | .exclude => "exclude".toList
  | .gitHubBaseUrl => "github-base-url".toList
  | .organization => "organization".toList
  | .repository => "repository".toList
  | .branch => "branch".toList
  | .format => "format".toList
  | .output => "output".toList

theorem lookup_name (setting : Setting) :
    longFlags.lookup setting.name = some (.setting setting) := by
  cases setting <;> rfl

theorem equals_not_mem_name (setting : Setting) :
    ∀ byte ∈ Utf8.encode setting.name, (byte != 0x3d) = true := by
  cases setting <;> decide +kernel

/-- A setting with its value attached. -/
def Setting.written (setting : Setting) (value : Bytes) : Bytes :=
  twoHyphens ++ (Utf8.encode setting.name ++ 0x3d :: value)

theorem Draft.readLong_written (draft : Draft) (setting : Setting) (value : Bytes) :
    draft.readLong (Utf8.encode setting.name ++ 0x3d :: value) =
      (draft.set setting value).map Step.next := by
  have name : (Utf8.encode setting.name ++ 0x3d :: value).takeWhile (· != 0x3d) =
      Utf8.encode setting.name := by
    rw [List.takeWhile_append_of_pos (equals_not_mem_name setting)]
    simp
  have attached : (Utf8.encode setting.name ++ 0x3d :: value).dropWhile (· != 0x3d) =
      0x3d :: value := by
    rw [List.dropWhile_append_of_pos (equals_not_mem_name setting)]
    simp
  rw [readLong, name, attached, Utf8.decode_encode, lookup_name]

theorem Draft.readArgument_written (draft : Draft) (setting : Setting) (value : Bytes) :
    draft.readArgument (setting.written value) = (draft.set setting value).map Step.next := by
  have long : twoHyphens.isPrefixOf? (setting.written value) =
      some (Utf8.encode setting.name ++ 0x3d :: value) := by
    simp [Setting.written, twoHyphens, List.isPrefixOf?]
  rw [readArgument, long]
  exact draft.readLong_written setting value

theorem Draft.readAll_written {value : Bytes} (given : draft.set setting value = .ok next)
    (others : List Bytes) :
    draft.readAll none (setting.written value :: others) = next.readAll none others := by
  have longer : setting.written value ≠ twoHyphens := by
    simp [Setting.written]
  rw [readAll, if_neg longer, readArgument_written, given]
  rfl

/-! ## One setting after the other -/

def languageText : Language → Text
  | .abap => "abap".toList
  | .java => "java".toList

def formatText : Report.Format → Text
  | .text => "text".toList
  | .json => "json".toList

/-- The values that options have for a setting. -/
def Options.values (options : Options) : Setting → List Bytes
  | .config => options.config.toList.map Path.spelling
  | .language => options.language.toList.map fun language => Utf8.encode (languageText language)
  | .include' => options.included.map Utf8.encode
  | .exclude => options.excluded.map Utf8.encode
  | .gitHubBaseUrl => options.gitHubBaseUrl.toList.map Utf8.encode
  | .organization => options.organization.toList.map Utf8.encode
  | .repository => options.repository.toList.map Utf8.encode
  | .branch => options.branch.toList.map Utf8.encode
  | .format => [Utf8.encode (formatText options.format)]
  | .output => options.output.toList.map Path.spelling

/-- What is known of options once some settings have been read. -/
def draftOf (options : Options) (settings : List Setting) : Draft where
  path := none
  config := if .config ∈ settings then options.config else none
  language := if .language ∈ settings then options.language else none
  included := if .include' ∈ settings then options.included else []
  excluded := if .exclude ∈ settings then options.excluded else []
  gitHubBaseUrl := if .gitHubBaseUrl ∈ settings then options.gitHubBaseUrl else none
  organization := if .organization ∈ settings then options.organization else none
  repository := if .repository ∈ settings then options.repository else none
  branch := if .branch ∈ settings then options.branch else none
  format := if .format ∈ settings then some options.format else none
  output := if .output ∈ settings then options.output else none
  verbose := options.verbose

theorem decodeExact?_encode (text : Text) : Utf8.decodeExact? (Utf8.encode text) = some text :=
  Utf8.decodeExact?_eq_some_iff.2 rfl

theorem pathValue?_spelling {path : Path} (spelled : path.spelling ≠ []) :
    pathValue? path.spelling = some path := by
  rw [pathValue?, if_neg (by simpa using spelled)]

theorem languageValue?_text (language : Language) :
    languageValue? (Utf8.encode (languageText language)) = some language := by
  cases language <;> rfl

theorem formatValue?_text (format : Report.Format) :
    formatValue? (Utf8.encode (formatText format)) = some format := by
  cases format <;> rfl

theorem foldlM_set_collected (before : List Text) {texts : List Text} (store : List Text → Draft)
    (starts : draft = store before) (ends : next = store (before ++ texts))
    (given : ∀ collected text, (store collected).set setting (Utf8.encode text) =
      .ok (store (collected ++ [text]))) :
    (texts.map Utf8.encode).foldlM (fun draft value => draft.set setting value) draft =
      .ok next := by
  induction texts generalizing draft before with
  | nil =>
      rw [starts, ends, List.append_nil]
      rfl
  | cons text texts inductionHypothesis =>
      rw [List.map_cons, List.foldlM_cons, starts, given]
      exact inductionHypothesis (before ++ [text]) rfl (by rw [ends, List.append_cons])

theorem foldlM_set_optional {α : Type} {value? : Option α} {write : α → Bytes}
    (store : Option α → Draft) (starts : draft = store none) (ends : next = store value?)
    (given : ∀ value, value? = some value →
      (store none).set setting (write value) = .ok (store (some value))) :
    (value?.toList.map write).foldlM (fun draft value => draft.set setting value) draft =
      .ok next := by
  cases value? with
  | none =>
      rw [starts, ends]
      rfl
  | some value =>
      rw [Option.toList_some, List.map_singleton, List.foldlM_cons, starts, given value rfl, ends]
      rfl

/-- The values of a setting that has not been read yet are read. -/
theorem foldlM_set_values (wellFormed : options.IsWellFormed) (unread : setting ∉ settings) :
    (options.values setting).foldlM (fun draft value => draft.set setting value)
        (draftOf options settings) =
      .ok (draftOf options (setting :: settings)) := by
  cases setting with
  | config =>
      exact foldlM_set_optional (fun path => { draftOf options settings with config := path })
        (by simp [draftOf, unread]) (by simp [draftOf])
        fun path given => by
          simp [Draft.set, assign, pathValue?_spelling (wellFormed.config path given)]
  | output =>
      exact foldlM_set_optional (fun path => { draftOf options settings with output := path })
        (by simp [draftOf, unread]) (by simp [draftOf])
        fun path given => by
          simp [Draft.set, assign, pathValue?_spelling (wellFormed.output path given)]
  | language =>
      exact foldlM_set_optional
        (fun language => { draftOf options settings with language := language })
        (by simp [draftOf, unread]) (by simp [draftOf])
        fun language _ => by simp [Draft.set, assign, languageValue?_text]
  | gitHubBaseUrl =>
      exact foldlM_set_optional
        (fun text => { draftOf options settings with gitHubBaseUrl := text })
        (by simp [draftOf, unread]) (by simp [draftOf])
        fun text _ => by simp [Draft.set, assign, decodeExact?_encode]
  | organization =>
      exact foldlM_set_optional
        (fun text => { draftOf options settings with organization := text })
        (by simp [draftOf, unread]) (by simp [draftOf])
        fun text _ => by simp [Draft.set, assign, decodeExact?_encode]
  | repository =>
      exact foldlM_set_optional
        (fun text => { draftOf options settings with repository := text })
        (by simp [draftOf, unread]) (by simp [draftOf])
        fun text _ => by simp [Draft.set, assign, decodeExact?_encode]
  | branch =>
      exact foldlM_set_optional (fun text => { draftOf options settings with branch := text })
        (by simp [draftOf, unread]) (by simp [draftOf])
        fun text _ => by simp [Draft.set, assign, decodeExact?_encode]
  | include' =>
      exact foldlM_set_collected []
        (fun texts => { draftOf options settings with included := texts })
        (by simp [draftOf, unread]) (by simp [draftOf])
        fun collected text => by simp [Draft.set, assign, decodeExact?_encode]
  | exclude =>
      exact foldlM_set_collected []
        (fun texts => { draftOf options settings with excluded := texts })
        (by simp [draftOf, unread]) (by simp [draftOf])
        fun collected text => by simp [Draft.set, assign, decodeExact?_encode]
  | format =>
      simp [Options.values, draftOf, unread, Draft.set, assign, formatValue?_text]

/-! ## A command line -/

/-- The arguments for the values of one setting. -/
def Options.arguments (options : Options) (setting : Setting) : List Bytes :=
  (options.values setting).map setting.written

theorem readAll_map_written {values : List Bytes}
    (given : values.foldlM (fun draft value => draft.set setting value) draft = .ok next)
    (others : List Bytes) :
    draft.readAll none (values.map setting.written ++ others) = next.readAll none others := by
  induction values generalizing draft with
  | nil => rw [Except.ok.inj given]; rfl
  | cons value values inductionHypothesis =>
      rw [List.foldlM_cons] at given
      cases first : draft.set setting value with
      | error refusal => simp [first, bind, Except.bind] at given
      | ok middle =>
          rw [first] at given
          rw [List.map_cons, List.cons_append, Draft.readAll_written first]
          exact inductionHypothesis given

/-- The settings that are not read yet are read in the order in which they are
written. -/
theorem readAll_arguments (wellFormed : options.IsWellFormed) {unread : List Setting}
    (distinct : (settings.reverse ++ unread).Nodup) (others : List Bytes) :
    (draftOf options settings).readAll none (unread.flatMap options.arguments ++ others) =
      (draftOf options (unread.reverse ++ settings)).readAll none others := by
  induction unread generalizing settings with
  | nil => rfl
  | cons setting unread inductionHypothesis =>
      have fresh : setting ∉ settings := by
        intro member
        exact (List.nodup_append.1 distinct).2.2 setting (List.mem_reverse.2 member) setting
          List.mem_cons_self rfl
      rw [List.flatMap_cons, List.append_assoc, Options.arguments,
        readAll_map_written (foldlM_set_values wellFormed fresh), inductionHypothesis,
        List.reverse_cons, List.append_assoc]
      · rfl
      · rwa [List.reverse_cons, List.append_assoc]

/-- All settings, in the order in which they are written. -/
def allSettings : List Setting :=
  [.config, .language, .include', .exclude, .gitHubBaseUrl, .organization, .repository, .branch,
    .format, .output]

/-- Once all settings have been read, options are finished by their path. -/
theorem finish_draftOf (wellFormed : options.IsWellFormed) {all : List Setting}
    (complete : ∀ setting, setting ∈ all) :
    { draftOf options all with path := some options.path }.finish = .ok (.run options) := by
  have draft : { draftOf options all with path := some options.path } =
      ⟨some options.path, options.config, options.language, options.included, options.excluded,
        options.gitHubBaseUrl, options.organization, options.repository, options.branch,
        some options.format, options.output, options.verbose⟩ := by
    simp only [draftOf, complete, if_true]
  have paired : (options.organization.isSome && options.repository.isNone) = false ∧
      (options.repository.isSome && options.organization.isNone) = false := by
    rw [wellFormed.hosting, ← Option.not_isSome, ← Option.not_isSome, wellFormed.hosting,
      Bool.and_not_self]
    exact ⟨rfl, rfl⟩
  rw [draft, Draft.finish]
  simp only [paired.1, paired.2, Bool.false_eq_true, if_false, Option.getD_some]

/-- After two hyphens comes the path. -/
theorem readAll_path (spelled : options.path.spelling ≠ []) (noPath : draft.path = none) :
    draft.readAll none [twoHyphens, options.path.spelling] =
      { draft with path := some options.path }.finish := by
  have path : draft.setPath options.path.spelling =
      .ok { draft with path := some options.path } := by
    simp [Draft.setPath, noPath, pathValue?_spelling spelled]
  rw [Draft.readAll, if_pos rfl, Draft.readPaths, path]
  rfl

/-- A command line that asks for a run with given options. -/
def Options.written (options : Options) : List Bytes :=
  (if options.verbose then [Utf8.encode "--verbose".toList] else []) ++
    (allSettings.flatMap options.arguments ++ [twoHyphens, options.path.spelling])

theorem readAll_verbose (options : Options) (others : List Bytes) :
    Draft.empty.readAll none
        ((if options.verbose then [Utf8.encode "--verbose".toList] else []) ++ others) =
      (draftOf options []).readAll none others := by
  cases verbose : options.verbose with
  | false => simp [draftOf, verbose, Draft.empty]
  | true =>
      have turnsOn : Draft.empty.readArgument (Utf8.encode "--verbose".toList) =
          .ok (.next (draftOf options [])) := by
        rw [draftOf, verbose]
        rfl
      have longer : Utf8.encode "--verbose".toList ≠ twoHyphens := by decide
      rw [if_pos rfl, List.singleton_append, Draft.readAll, if_neg longer, turnsOn]

/-- Options are read back from what is written for them. -/
theorem read_written (wellFormed : options.IsWellFormed) :
    read options.written = .ok (.run options) := by
  have distinct : (([] : List Setting).reverse ++ allSettings).Nodup := by decide
  have complete : ∀ setting, setting ∈ allSettings.reverse ++ [] := by
    intro setting
    cases setting <;> decide
  rw [read, Options.written, readAll_verbose, readAll_arguments wellFormed distinct,
    readAll_path wellFormed.path rfl, finish_draftOf wellFormed complete]

end BacklogTrace.CommandLine
