import BacklogTrace.Harvest.Files
import BacklogTrace.Proofs.FileSystem.Lookup
import BacklogTrace.Proofs.Traversal

/-!
Contract: what becomes of one file, and of one file after the other.

A path is selected when its extension names a language and no other is wanted. A
selected file cannot be read, or its own scan faults, or its own scan finds
records: these exclude each other. Every file is read and scanned before any of
what came of it is looked at, so a fault goes before everything else; without
one, the records of a list of files are those of each file on its own.

Owns: `Path.language?`, `Harvest.IsSelected`, `Harvest.Finds`,
`Harvest.Faults`, and the harvest functions as traversals.

Does not own: what the scan of one text finds (`Proofs.Scan`).
-/

namespace BacklogTrace

/-- The language that the extension of a path names. -/
def Path.language? (path : Path) : Option Language :=
  (path.extension?.bind Utf8.decodeExact?).bind Language.ofExtension?

namespace Harvest

variable {fileSystem : FileSystem} {link : Path → Text} {wanted : Option Language}
  {path : Path} {language : Language} {records : List Record}

/-! ## Selection -/

/-- The extension of a path names a language, which is the wanted one if one is
wanted. -/
def IsSelected (wanted : Option Language) (path : Path) : Prop :=
  ∃ language, path.language? = some language ∧ (wanted = none ∨ wanted = some language)

theorem languageOf?_eq_some_iff :
    languageOf? wanted path = some language ↔
      path.language? = some language ∧ (wanted = none ∨ wanted = some language) := by
  unfold languageOf? Path.language?
  cases (path.extension?.bind Utf8.decodeExact?).bind Language.ofExtension? with
  | none => simp
  | some named =>
      cases wanted with
      | none => simp
      | some only =>
          by_cases same : only = named
          · subst same
            simp
          · have other : named = language → only ≠ language := by
              rintro rfl
              exact same
            simpa [same] using other

theorem isSelected_iff_isSome :
    IsSelected wanted path ↔ (languageOf? wanted path).isSome = true := by
  rw [Option.isSome_iff_exists]
  exact exists_congr fun _ => languageOf?_eq_some_iff.symm

instance : DecidablePred (IsSelected wanted) :=
  fun _ => decidable_of_iff _ isSelected_iff_isSome.symm

theorem languageOf?_none : languageOf? none path = path.language? :=
  Option.ext fun _ => by simp [languageOf?_eq_some_iff]

theorem mem_select_iff {paths : List Path} :
    (path, language) ∈ select wanted paths ↔
      path ∈ paths ∧ languageOf? wanted path = some language := by
  simp only [select, List.mem_filterMap, Option.map_eq_some_iff, Prod.mk.injEq]
  constructor
  · rintro ⟨other, member, named, chosen, rfl, rfl⟩
    exact ⟨member, chosen⟩
  · rintro ⟨member, chosen⟩
    exact ⟨path, member, language, chosen, rfl, rfl⟩

/-- What is selected is in order, and each in the language that its extension
names. -/
theorem map_fst_select (paths : List Path) :
    (select wanted paths).map Prod.fst = paths.filter (IsSelected wanted) := by
  induction paths with
  | nil => rfl
  | cons head tail inductionHypothesis =>
      cases chosen : languageOf? wanted head with
      | none =>
          have passedOver : ¬ IsSelected wanted head := by
            rw [isSelected_iff_isSome, chosen]
            exact Bool.false_ne_true
          rw [List.filter_cons_of_neg (by simpa using passedOver), ← inductionHypothesis]
          simp [select, chosen]
      | some language =>
          have taken : IsSelected wanted head := by
            rw [isSelected_iff_isSome, chosen]
            rfl
          rw [List.filter_cons_of_pos (by simpa using taken), ← inductionHypothesis]
          simp [select, chosen]

/-- What has been selected stays selected. -/
theorem select_map_fst {files : List Selected}
    (chosen : ∀ file ∈ files, languageOf? wanted file.1 = some file.2) :
    select wanted (files.map Prod.fst) = files := by
  induction files with
  | nil => rfl
  | cons head tail inductionHypothesis =>
      obtain ⟨headChosen, tailChosen⟩ := List.forall_mem_cons.1 chosen
      rw [List.map_cons, select, List.filterMap_cons, headChosen]
      exact congrArg (head :: ·) (inductionHypothesis tailChosen)

/-! ## One file -/

variable (fileSystem link) in
/-- The file of a path can be read, and its own scan finds these records. -/
def Finds (path : Path) (records : List Record) : Prop :=
  ∃ language content, path.language? = some language ∧ fileSystem.read? path = some content ∧
    scanFile link language path (Utf8.decode content) = .ok records

variable (fileSystem link) in
/-- The file of a path can be read, and its own scan faults. -/
def Faults (path : Path) : Prop :=
  ∃ language content fault, path.language? = some language ∧
    fileSystem.read? path = some content ∧
      scanFile link language path (Utf8.decode content) = .error fault

/-- A selected file that can be read, and whose scan does not fault, has records. -/
theorem exists_finds (selected : IsSelected wanted path) (sound : ¬ Faults fileSystem link path)
    (readable : fileSystem.read? path ≠ none) :
    ∃ records, Finds fileSystem link path records := by
  obtain ⟨language, named, -⟩ := selected
  obtain ⟨content, given⟩ := Option.ne_none_iff_exists'.1 readable
  cases scanned : scanFile link language path (Utf8.decode content) with
  | error fault => exact absurd ⟨language, content, fault, named, given, scanned⟩ sound
  | ok records => exact ⟨records, language, content, named, given, scanned⟩

theorem Finds.isSome_read? (found : Finds fileSystem link path records) :
    (fileSystem.read? path).isSome = true := by
  obtain ⟨-, content, -, readable, -⟩ := found
  rw [readable, Option.isSome_some]

theorem Finds.not_faults (found : Finds fileSystem link path records) :
    ¬ Faults fileSystem link path := by
  obtain ⟨language, content, named, readable, scanned⟩ := found
  rintro ⟨otherLanguage, otherContent, fault, otherNamed, otherReadable, failed⟩
  obtain rfl := Option.some.inj (named.symm.trans otherNamed)
  obtain rfl := Option.some.inj (readable.symm.trans otherReadable)
  exact absurd (scanned.symm.trans failed) (by simp)

theorem not_faults_of_unreadable (absent : fileSystem.read? path = none) :
    ¬ Faults fileSystem link path := by
  rintro ⟨_, content, _, -, readable, -⟩
  exact absurd (absent.symm.trans readable) (by simp)

/-- A file in the language that its extension names. -/
def Selected.IsNamed (file : Selected) : Prop :=
  file.1.language? = some file.2

theorem isNamed_of_mem_select {paths : List Path} :
    ∀ file ∈ select wanted paths, Selected.IsNamed file :=
  fun _ member => (languageOf?_eq_some_iff.1 (mem_select_iff.1 member).2).1

theorem isSelected_of_mem_select {paths : List Path} {file : Selected}
    (member : file ∈ select wanted paths) : file.1 ∈ paths ∧ IsSelected wanted file.1 := by
  have among := List.mem_map_of_mem (f := Prod.fst) member
  rwa [map_fst_select, List.mem_filter, decide_eq_true_iff] at among

theorem readAndScan_of_read? {file : Selected} {content : Bytes}
    (readable : fileSystem.read? file.1 = some content) :
    readAndScan fileSystem link file =
      (scanFile link file.2 file.1 (Utf8.decode content)).map Outcome.scanned := by
  rw [readAndScan, FileSystem.read?_eq_some_iff.1 readable]
  dsimp only
  cases scanFile link file.2 file.1 (Utf8.decode content) <;> rfl

theorem readAndScan_of_unreadable {file : Selected} {reason : Text}
    (fails : fileSystem.read file.1 = .error reason) :
    readAndScan fileSystem link file = .ok (.unreadable file.1 reason) := by
  rw [readAndScan, fails]

/-- What a scan of the content gives is what comes of a file that can be read. -/
theorem readAndScan_eq_map_iff {file : Selected} (named : file.IsNamed)
    (result : Except ScanFault (List Record)) :
    readAndScan fileSystem link file = result.map Outcome.scanned ↔
      ∃ language content, file.1.language? = some language ∧
        fileSystem.read? file.1 = some content ∧
          scanFile link language file.1 (Utf8.decode content) = result := by
  rw [named]
  cases readable : fileSystem.read? file.1 with
  | none =>
      obtain ⟨reason, fails⟩ := FileSystem.read?_eq_none_iff.1 readable
      rw [readAndScan_of_unreadable fails]
      cases result <;> simp [Except.map]
  | some content =>
      rw [readAndScan_of_read? readable]
      cases scanned : scanFile link file.2 file.1 (Utf8.decode content) <;>
        cases result <;> simp [scanned, Except.map]

theorem readAndScan_eq_error_iff {file : Selected} (named : file.IsNamed) :
    (∃ fault, readAndScan fileSystem link file = .error fault) ↔
      Faults fileSystem link file.1 := by
  constructor
  · rintro ⟨fault, failed⟩
    obtain ⟨language, content, scans⟩ := (readAndScan_eq_map_iff named (.error fault)).1 failed
    exact ⟨language, content, fault, scans⟩
  · rintro ⟨language, content, fault, scans⟩
    exact ⟨fault, (readAndScan_eq_map_iff named (.error fault)).2 ⟨language, content, scans⟩⟩

theorem readAndScan_eq_unreadable_iff {file : Selected} {reason : Text} :
    readAndScan fileSystem link file = .ok (.unreadable path reason) ↔
      file.1 = path ∧ fileSystem.read path = .error reason := by
  unfold readAndScan
  cases given : fileSystem.read file.1 with
  | error why =>
      simp only [Except.ok.injEq, Outcome.unreadable.injEq]
      refine and_congr_right fun same => ?_
      rw [← same, given, Except.error.injEq]
  | ok content =>
      have readable : file.1 = path → fileSystem.read path ≠ .error reason := by
        rintro rfl
        simp [given]
      dsimp only
      cases scanFile link file.2 file.1 (Utf8.decode content) <;> simpa using readable

theorem readAndScan_eq_scanned_iff {file : Selected} (named : file.IsNamed) :
    readAndScan fileSystem link file = .ok (.scanned records) ↔
      Finds fileSystem link file.1 records :=
  readAndScan_eq_map_iff named (.ok records)

/-! ## One file after the other -/

theorem readAndScanAll_eq_mapM (files : List Selected) :
    readAndScanAll fileSystem link files = files.mapM (readAndScan fileSystem link) := by
  induction files with
  | nil => rfl
  | cons head tail inductionHypothesis =>
      rw [readAndScanAll, inductionHypothesis]
      cases given : readAndScan fileSystem link head with
      | error fault => exact (Traversal.mapM_cons_of_error given tail).symm
      | ok outcome =>
          rw [Traversal.mapM_cons_of_ok given]
          cases tail.mapM (readAndScan fileSystem link) <;> rfl

theorem exists_readAndScanAll_eq_error_iff {files : List Selected}
    (named : ∀ file ∈ files, Selected.IsNamed file) :
    (∃ fault, readAndScanAll fileSystem link files = .error fault) ↔
      ∃ file ∈ files, Faults fileSystem link file.1 := by
  rw [readAndScanAll_eq_mapM]
  constructor
  · rintro ⟨fault, given⟩
    obtain ⟨before, file, after, rfl, -, failed⟩ := Traversal.mapM_eq_error_iff.1 given
    have member : file ∈ before ++ file :: after := by simp
    exact ⟨file, member, (readAndScan_eq_error_iff (named file member)).1 ⟨fault, failed⟩⟩
  · rintro ⟨file, member, faults⟩
    obtain ⟨fault, failed⟩ := (readAndScan_eq_error_iff (named file member)).2 faults
    cases given : files.mapM (readAndScan fileSystem link) with
    | error first => exact ⟨first, rfl⟩
    | ok outcomes =>
        obtain ⟨outcome, passed⟩ := Traversal.exists_mapM_eq_ok_iff.1 ⟨outcomes, given⟩ file member
        exact absurd (failed.symm.trans passed) (by simp)

/-- Without a fault something comes of every file. -/
theorem exists_outcomes {files : List Selected}
    (named : ∀ file ∈ files, Selected.IsNamed file)
    (sound : ∀ file ∈ files, ¬ Faults fileSystem link file.1) :
    ∃ outcomes, readAndScanAll fileSystem link files = .ok outcomes ∧
      List.Forall₂ (fun file outcome => readAndScan fileSystem link file = .ok outcome)
        files outcomes := by
  cases given : readAndScanAll fileSystem link files with
  | error fault =>
      obtain ⟨file, member, faults⟩ := (exists_readAndScanAll_eq_error_iff named).1 ⟨fault, given⟩
      exact absurd faults (sound file member)
  | ok outcomes =>
      rw [readAndScanAll_eq_mapM] at given
      exact ⟨outcomes, rfl, Traversal.mapM_eq_ok_iff.1 given⟩

/-- The records of what came of a file that has to be readable. -/
def Outcome.require : Outcome → Except Fault (List Record)
  | .unreadable path _ => .error (.unreadableFile path)
  | .scanned records => .ok records

theorem requireAll_eq_mapM (outcomes : List Outcome) :
    requireAll outcomes = (outcomes.mapM Outcome.require).map List.flatten := by
  induction outcomes with
  | nil => rfl
  | cons head tail inductionHypothesis =>
      cases head with
      | unreadable path reason =>
          rw [Traversal.mapM_cons_of_error (rfl : Outcome.require (.unreadable path reason) = _)]
          rfl
      | scanned records =>
          rw [requireAll, inductionHypothesis,
            Traversal.mapM_cons_of_ok (rfl : Outcome.require (.scanned records) = _)]
          cases tail.mapM Outcome.require <;> rfl

end Harvest

end BacklogTrace
