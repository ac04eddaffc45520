import BacklogTrace.Config.File
import BacklogTrace.Proofs.Config.Field
import BacklogTrace.Proofs.Json.Printer
import BacklogTrace.Proofs.Json.Reader

/-!
Contract: a configuration is read back from every document that writes it.

For each kind of object it is said which fields it has and what their values may be;
the reader undoes this from the innermost object outwards. An object that lacks a
field it has to have, or has one of its fields twice, makes the document no
configuration, wherever the object stands.

Owns: `WritesConfig`, `Defect`, `parse_recovers_config`.

Does not own: the fields of an object (`Proofs.Config.Field`), documents
(`Proofs.Json.Grammar`), files (`Proofs.Config.File`).
-/

namespace BacklogTrace.Config

open Json

/-! ## Values that write a configuration -/

def WritesText (content : Text) (value : Json) : Prop :=
  value = .string content

inductive WritesHosting : Hosting → Json → Prop
  | object {hosting : Hosting} {branch : List Json} {value : Json}
      (branchWritten : WritesOptional WritesText hosting.branch branch)
      (shape : HasFields
        [⟨"organization", [.string hosting.organization]⟩,
         ⟨"repository", [.string hosting.repository]⟩,
         ⟨"branch", branch⟩] value) :
      WritesHosting hosting value

inductive WritesSource : SourceEntry → Json → Prop
  | object {source : SourceEntry} {languageName hosting included excluded : List Json}
      {value : Json}
      (languageWritten : WritesOptional WritesText source.languageName languageName)
      (hostingWritten : WritesOptional WritesHosting source.hosting hosting)
      (includedWritten : WritesTexts source.included included)
      (excludedWritten : WritesTexts source.excluded excluded)
      (shape : HasFields
        [⟨"local", [.string source.localPath]⟩,
         ⟨"language", languageName⟩,
         ⟨"git", hosting⟩,
         ⟨"include", included⟩,
         ⟨"exclude", excluded⟩] value) :
      WritesSource source value

/-- A value is one of the forms in which a configuration may be written. -/
inductive WritesConfig : Config → Json → Prop
  | object {config : Config} {baseUrl elements : List Json} {value : Json}
      (baseUrlWritten : WritesOptional WritesText config.gitHubBaseUrl baseUrl)
      (sourcesWritten : List.Forall₂ WritesSource config.sources elements)
      (shape : HasFields
        [⟨"github_base_url", baseUrl⟩,
         ⟨"sources", [.array elements]⟩] value) :
      WritesConfig config value

/-! ## Objects that are no configuration -/

inductive HostingDefect : Json → Prop
  | members {members : List (Text × Json)}
      (flawed : Flawed ["organization", "repository"]
        ["organization", "repository", "branch"] members) :
      HostingDefect (.object members)

inductive SourceDefect : Json → Prop
  | members {members : List (Text × Json)}
      (flawed : Flawed ["local"] ["local", "language", "git", "include", "exclude"] members) :
      SourceDefect (.object members)
  | hosting {members : List (Text × Json)} {hosting : Json}
      (member : ("git".toList, hosting) ∈ members) (defect : HostingDefect hosting) :
      SourceDefect (.object members)

/-- An object of a configuration lacks a field or has one twice. -/
inductive Defect : Json → Prop
  | members {members : List (Text × Json)}
      (flawed : Flawed ["sources"] ["github_base_url", "sources"] members) :
      Defect (.object members)
  | source {members : List (Text × Json)} {elements : List Json} {source : Json}
      (member : ("sources".toList, .array elements) ∈ members) (among : source ∈ elements)
      (defect : SourceDefect source) :
      Defect (.object members)

/-! ## Objects that are read -/

variable {value : Json}

theorem readOptionalText?_of_writesText (content : Text) (value : Json)
    (written : WritesText content value) : readOptionalText? value = some (some content) := by
  rw [written]
  rfl

theorem readHosting?_of_writesHosting (hosting : Hosting) (value : Json)
    (written : WritesHosting hosting value) : readHosting? value = some (some hosting) := by
  obtain ⟨branchWritten, shape⟩ := written
  obtain ⟨members, rfl, given⟩ := shape.exists_members (by simp)
  simp only [List.forall_mem_cons] at given
  obtain ⟨organization, repository, branch, -⟩ := given
  rw [readHosting?, required?_of_perm organization, required?_of_perm repository,
    optional?_of_writesOptional branchWritten readOptionalText?_of_writesText rfl branch]
  rfl

theorem readSource?_of_writesSource {source : SourceEntry} {value : Json}
    (written : WritesSource source value) : readSource? value = some source := by
  obtain ⟨languageWritten, hostingWritten, includedWritten, excludedWritten, shape⟩ := written
  obtain ⟨members, rfl, given⟩ := shape.exists_members (by simp)
  simp only [List.forall_mem_cons] at given
  obtain ⟨localPath, languageName, hosting, included, excluded, -⟩ := given
  rw [readSource?, required?_of_perm localPath,
    optional?_of_writesOptional languageWritten readOptionalText?_of_writesText rfl languageName,
    optional?_of_writesOptional hostingWritten readHosting?_of_writesHosting rfl hosting,
    optional?_of_writesTexts includedWritten included,
    optional?_of_writesTexts excludedWritten excluded]
  rfl

theorem readSources?_of_forall₂ {sources : List SourceEntry} {elements : List Json}
    (written : List.Forall₂ WritesSource sources elements) :
    readSources? (.array elements) = some sources := by
  rw [readSources?]
  apply Traversal.mapM_eq_some_of_forall₂
  exact written.flip.imp fun _ _ => readSource?_of_writesSource

theorem ofJson?_of_writesConfig {config : Config} (written : WritesConfig config value) :
    ofJson? value = some config := by
  obtain ⟨baseUrlWritten, sourcesWritten, shape⟩ := written
  obtain ⟨members, rfl, given⟩ := shape.exists_members (by simp)
  simp only [List.forall_mem_cons] at given
  obtain ⟨baseUrl, sources, -⟩ := given
  rw [ofJson?, required?_of_perm sources, readSources?_of_forall₂ sourcesWritten,
    optional?_of_writesOptional baseUrlWritten readOptionalText?_of_writesText rfl baseUrl]
  rfl

/-! ## Objects that are refused -/

theorem readHosting?_of_hostingDefect (defect : HostingDefect value) :
    readHosting? value = none := by
  cases defect with
  | members flawed =>
      cases flawed with
      | lacks needed missing =>
          simp only [List.mem_cons, List.not_mem_nil, or_false] at needed
          rcases needed with rfl | rfl <;>
            simp [readHosting?, required?_eq_none_of_lacks missing]
      | repeats possible twice =>
          simp only [List.mem_cons, List.not_mem_nil, or_false] at possible
          rcases possible with rfl | rfl | rfl <;>
            simp [readHosting?, required?_eq_none_of_repeats twice,
              optional?_eq_none_of_repeats twice]

theorem readSource?_of_sourceDefect (defect : SourceDefect value) : readSource? value = none := by
  cases defect with
  | members flawed =>
      cases flawed with
      | lacks needed missing =>
          rw [List.mem_singleton.1 needed] at missing
          simp [readSource?, required?_eq_none_of_lacks missing]
      | repeats possible twice =>
          simp only [List.mem_cons, List.not_mem_nil, or_false] at possible
          rcases possible with rfl | rfl | rfl | rfl | rfl <;>
            simp [readSource?, required?_eq_none_of_repeats twice,
              optional?_eq_none_of_repeats twice]
  | hosting member defect =>
      simp [readSource?, optional?_eq_none_of_mem member (readHosting?_of_hostingDefect defect)]

theorem ofJson?_of_defect (defect : Defect value) : ofJson? value = none := by
  cases defect with
  | members flawed =>
      cases flawed with
      | lacks needed missing =>
          rw [List.mem_singleton.1 needed] at missing
          simp [ofJson?, required?_eq_none_of_lacks missing]
      | repeats possible twice =>
          simp only [List.mem_cons, List.not_mem_nil, or_false] at possible
          rcases possible with rfl | rfl <;>
            simp [ofJson?, required?_eq_none_of_repeats twice, optional?_eq_none_of_repeats twice]
  | source member among defect =>
      have nothing : readSources? (.array _) = none :=
        Traversal.mapM_eq_none_of_mem among (readSource?_of_sourceDefect defect)
      simp [ofJson?, required?_eq_none_of_mem member nothing]

/-! ## A configuration out of order, and one with a defect -/

/-- A source with a host. The fields are out of order, and what is empty is null,
missing or an empty list. -/
def sampleSource : Json :=
  .object
    [("git".toList, .object
       [("repository".toList, .string "r".toList),
        ("organization".toList, .string "o".toList),
        ("branch".toList, .null)]),
     ("exclude".toList, .array []),
     ("local".toList, .string ".".toList)]

/-- A member of another name has the name of a field inside. -/
def sampleValue : Json :=
  .object
    [("note".toList, .object [("sources".toList, .null)]),
     ("sources".toList, .array [sampleSource])]

def sampleConfig : Config :=
  ⟨none, [⟨".".toList, none, some ⟨"o".toList, "r".toList, none⟩, [], []⟩]⟩

/-- A source without a checkout. -/
def sampleDefect : Json :=
  .object [("sources".toList, .array [.object [("language".toList, .string "abap".toList)]])]

theorem isPrintable_sampleSource : IsPrintable sampleSource := by
  apply IsPrintable.object
  simp only [List.forall_mem_cons]
  refine ⟨.object ?_, .array (List.forall_mem_nil _), .string _, List.forall_mem_nil _⟩
  simp only [List.forall_mem_cons]
  exact ⟨.string _, .string _, .null, List.forall_mem_nil _⟩

theorem isPrintable_sampleValue : IsPrintable sampleValue := by
  apply IsPrintable.object
  simp only [List.forall_mem_cons]
  exact ⟨.object (List.forall_mem_singleton.2 .null),
    .array (List.forall_mem_singleton.2 isPrintable_sampleSource), List.forall_mem_nil _⟩

theorem isPrintable_sampleDefect : IsPrintable sampleDefect :=
  .object (List.forall_mem_singleton.2 (.array (List.forall_mem_singleton.2
    (.object (List.forall_mem_singleton.2 (.string _))))))

theorem writesSource_sampleSource :
    WritesSource ⟨".".toList, none, some ⟨"o".toList, "r".toList, none⟩, [], []⟩ sampleSource := by
  have hosting : WritesHosting ⟨"o".toList, "r".toList, none⟩ (.object
      [("repository".toList, .string "r".toList), ("organization".toList, .string "o".toList),
       ("branch".toList, .null)]) :=
    .object .null (.object (.swap _ _ _) (List.forall_mem_nil _))
  exact .object .absent (.present hosting) .absent (.array [])
    (.object (List.perm_append_singleton _ [_, _]) (List.forall_mem_nil _))

theorem writesConfig_sampleConfig : WritesConfig sampleConfig sampleValue := by
  refine .object .absent (.cons writesSource_sampleSource .nil) (.object (.swap _ _ _) ?_)
  rw [List.forall_mem_singleton]
  simp only [List.forall_mem_cons]
  exact ⟨by decide, by decide, List.forall_mem_nil _⟩

theorem defect_sampleDefect : Defect sampleDefect := by
  have lacks : SourceDefect (.object [("language".toList, .string "abap".toList)]) :=
    .members (.lacks List.mem_cons_self (List.forall_mem_singleton.2 (by decide)))
  exact .source List.mem_cons_self List.mem_cons_self lacks

/-! ## Documents -/

/-- A document that writes a configuration is parsed to this configuration, and one
with a defect is refused. -/
theorem parse_recovers_config {text : Text} (document : IsDocument text value) :
    (∀ config, WritesConfig config value → parse text = .ok config) ∧
      (Defect value → parse text = .error .malformedText) := by
  have reads : read? text = ofJson? value := by
    rw [read?, read?_of_isDocument document]
    rfl
  constructor
  · intro config written
    rw [parse, reads, ofJson?_of_writesConfig written]
  · intro defect
    rw [parse, reads, ofJson?_of_defect defect]

theorem parse_recovers_config_sample :
    (IsDocument sampleValue.pretty sampleValue ∧ WritesConfig sampleConfig sampleValue ∧
      parse sampleValue.pretty = .ok sampleConfig) ∧
    IsDocument sampleDefect.pretty sampleDefect ∧ Defect sampleDefect ∧
      parse sampleDefect.pretty = .error .malformedText := by
  have document := isDocument_pretty isPrintable_sampleValue
  have defective := isDocument_pretty isPrintable_sampleDefect
  exact ⟨⟨document, writesConfig_sampleConfig,
      (parse_recovers_config document).1 sampleConfig writesConfig_sampleConfig⟩,
    defective, defect_sampleDefect, (parse_recovers_config defective).2 defect_sampleDefect⟩

end BacklogTrace.Config
