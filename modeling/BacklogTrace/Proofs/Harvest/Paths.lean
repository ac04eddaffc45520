import BacklogTrace.Proofs.Harvest.Outcome
import BacklogTrace.Run

/-!
Contract: the harvest of named files, and of texts without files.

A fault in any file that can be read goes before everything else. Without one,
the first file that cannot be read fails the harvest; if there is none, the
records are those of each file on its own, one file after the other, and the
same texts give the same records without a file system. Texts are harvested one
by one, so a list of texts may be cut anywhere.

Owns: `Harvest.ofPaths` and `Harvest.ofTexts` as traversals, and what they give.

Does not own: files that are found by a walk (`Proofs.Harvest.Tree`).
-/

namespace BacklogTrace.Harvest

variable {fileSystem : FileSystem} {link : Path → Text} {wanted : Option Language}

/-! ## Texts -/

/-- Harvests one after the other. -/
def join (harvests : List Harvest) : Harvest :=
  harvests.foldr (· ++ ·) empty

theorem mk_append (records otherRecords : List Record) (warnings otherWarnings : List Text) :
    Harvest.mk records warnings ++ Harvest.mk otherRecords otherWarnings =
      ⟨records ++ otherRecords, warnings ++ otherWarnings⟩ := rfl

theorem append_assoc (first second third : Harvest) :
    first ++ second ++ third = first ++ (second ++ third) := by
  change Harvest.mk _ _ = Harvest.mk _ _
  simp only [records_append, warnings_append, List.append_assoc]

theorem append_empty (harvest : Harvest) : harvest ++ empty = harvest := by
  change Harvest.mk (harvest.records ++ []) (harvest.warnings ++ []) = harvest
  rw [List.append_nil, List.append_nil]

theorem join_append (firsts seconds : List Harvest) :
    join (firsts ++ seconds) = join firsts ++ join seconds := by
  induction firsts with
  | nil => rfl
  | cons head tail inductionHypothesis =>
      change head ++ join (tail ++ seconds) = head ++ join tail ++ join seconds
      rw [inductionHypothesis, append_assoc]

theorem join_eq (harvests : List Harvest) :
    join harvests = ⟨harvests.flatMap Harvest.records, harvests.flatMap Harvest.warnings⟩ := by
  induction harvests with
  | nil => rfl
  | cons head tail inductionHypothesis =>
      change head ++ join tail = _
      rw [inductionHypothesis]
      rfl

theorem ofTexts_eq_mapM (texts : List SourceText) :
    ofTexts link texts = (texts.mapM (ofText link)).map join := by
  induction texts with
  | nil => rfl
  | cons head tail inductionHypothesis =>
      rw [ofTexts, inductionHypothesis]
      cases given : ofText link head with
      | error fault =>
          rw [Traversal.mapM_cons_of_error given]
          rfl
      | ok first =>
          rw [Traversal.mapM_cons_of_ok given]
          cases tail.mapM (ofText link) <;> rfl

theorem ofTexts_append (firsts seconds : List SourceText) :
    ofTexts link (firsts ++ seconds) =
      (ofTexts link firsts).bind fun first =>
        (ofTexts link seconds).map fun second => first ++ second := by
  simp only [ofTexts_eq_mapM, List.mapM_append]
  cases firsts.mapM (ofText link) with
  | error fault => rfl
  | ok first =>
      cases seconds.mapM (ofText link) with
      | error fault => rfl
      | ok second => exact congrArg Except.ok (join_append first second)

/-- A text that holds what the file of a path holds. -/
def IsTextOf (fileSystem : FileSystem) (path : Path) (text : SourceText) : Prop :=
  text.path = path ∧ ∃ content, fileSystem.read? path = some content ∧
    text.content = Utf8.decode content

theorem ofText_of_finds {path : Path} {text : SourceText} {records : List Record}
    (held : IsTextOf fileSystem path text) (found : Finds fileSystem link path records) :
    ofText link text = .ok ⟨records, []⟩ := by
  obtain ⟨rfl, content, readable, same⟩ := held
  obtain ⟨language, content', named, readable', scanned⟩ := found
  obtain rfl : content = content' := Option.some.inj (readable.symm.trans readable')
  rw [ofText, languageOf?_none, named]
  dsimp only
  rw [same, scanned]

/-! ## Files -/

variable (fileSystem link) in
/-- The records of one file that has to be readable. -/
def requireFile (file : Selected) : Except Fault (List Record) :=
  match readAndScan fileSystem link file with
  | .error fault => .error (.scan fault)
  | .ok outcome => outcome.require

theorem requireFile_of_unreadable {file : Selected} (absent : fileSystem.read? file.1 = none) :
    requireFile fileSystem link file = .error (.unreadableFile file.1) := by
  obtain ⟨reason, fails⟩ := FileSystem.read?_eq_none_iff.1 absent
  rw [requireFile, readAndScan_of_unreadable fails]
  rfl

theorem requireFile_of_finds {file : Selected} {records : List Record} (named : file.IsNamed)
    (found : Finds fileSystem link file.1 records) :
    requireFile fileSystem link file = .ok records := by
  rw [requireFile, (readAndScan_eq_scanned_iff named).2 found]
  rfl

/-- The warnings about the paths that are not selected. -/
def unselectedWarnings (wanted : Option Language) (paths : List Path) : List Text :=
  (paths.filter fun path => ¬ IsSelected wanted path).map unsupportedWarning

theorem filter_languageOf?_isNone (paths : List Path) :
    (paths.filter fun path => (languageOf? wanted path).isNone) =
      paths.filter fun path => ¬ IsSelected wanted path := by
  refine List.filter_congr fun path _ => ?_
  rw [Bool.eq_iff_iff, decide_eq_true_iff, isSelected_iff_isSome]
  cases languageOf? wanted path <;> simp

theorem ofPaths_of_faults {paths : List Path}
    (faulty : ∃ path ∈ paths, IsSelected wanted path ∧ Faults fileSystem link path) :
    ∃ fault, ofPaths fileSystem link wanted paths = .error (.scan fault) := by
  obtain ⟨path, member, selected, faults⟩ := faulty
  obtain ⟨language, chosen⟩ := Option.isSome_iff_exists.1 (isSelected_iff_isSome.1 selected)
  obtain ⟨fault, given⟩ :
      ∃ fault, readAndScanAll fileSystem link (select wanted paths) = .error fault :=
    (exists_readAndScanAll_eq_error_iff isNamed_of_mem_select).2
      ⟨(path, language), mem_select_iff.2 ⟨member, chosen⟩, faults⟩
  exact ⟨fault, by rw [ofPaths, given]⟩

/-- The first of the selected files that cannot be read. -/
def IsFirstUnreadable (fileSystem : FileSystem) (selected : List Path) (path : Path) : Prop :=
  ∃ before after, selected = before ++ path :: after ∧
    (∀ earlier ∈ before, fileSystem.read? earlier ≠ none) ∧ fileSystem.read? path = none

theorem exists_isFirstUnreadable {selected : List Path}
    (broken : ∃ path ∈ selected, fileSystem.read? path = none) :
    ∃ path, IsFirstUnreadable fileSystem selected path := by
  have isSome : (selected.find? fun path => (fileSystem.read? path).isNone).isSome = true := by
    rw [List.find?_isSome]
    obtain ⟨path, member, absent⟩ := broken
    exact ⟨path, member, Option.isNone_iff_eq_none.2 absent⟩
  obtain ⟨path, first⟩ := Option.isSome_iff_exists.1 isSome
  obtain ⟨absent, before, after, shape, readable⟩ := List.find?_eq_some_iff_append.1 first
  refine ⟨path, before, after, shape, fun earlier member none => ?_,
    Option.isNone_iff_eq_none.1 absent⟩
  exact absurd (readable earlier member) (by simp [none])

section

variable {paths : List Path}
  (sound : ∀ path ∈ paths, IsSelected wanted path → ¬ Faults fileSystem link path)

include sound

/-- Without a fault, named files are harvested up to the first that cannot be
read. -/
theorem ofPaths_of_sound :
    ofPaths fileSystem link wanted paths =
      ((select wanted paths).mapM (requireFile fileSystem link)).map fun parts =>
        ⟨parts.flatten, unselectedWarnings wanted paths⟩ := by
  have soundFiles : ∀ file ∈ select wanted paths, ¬ Faults fileSystem link file.1 := by
    intro file member
    obtain ⟨among, selected⟩ := isSelected_of_mem_select member
    exact sound file.1 among selected
  obtain ⟨outcomes, given, paired⟩ := exists_outcomes isNamed_of_mem_select soundFiles
  have traversed : (select wanted paths).mapM (requireFile fileSystem link) =
      outcomes.mapM Outcome.require :=
    Traversal.mapM_congr (paired.imp fun file outcome came => by rw [requireFile, came])
  rw [ofPaths, given, traversed]
  dsimp only
  rw [requireAll_eq_mapM, filter_languageOf?_isNone]
  cases outcomes.mapM Outcome.require <;> rfl

theorem ofPaths_of_isFirstUnreadable {path : Path}
    (first : IsFirstUnreadable fileSystem (paths.filter (IsSelected wanted)) path) :
    ofPaths fileSystem link wanted paths = .error (.unreadableFile path) := by
  obtain ⟨before, after, pathShape, readable, absent⟩ := first
  rw [← map_fst_select] at pathShape
  obtain ⟨filesBefore, others, shape, rfl, othersShape⟩ := List.map_eq_append_iff.1 pathShape
  obtain ⟨file, filesAfter, rfl, rfl, rfl⟩ := List.map_eq_cons_iff.1 othersShape
  have failed : (select wanted paths).mapM (requireFile fileSystem link) =
      .error (.unreadableFile file.1) := by
    refine Traversal.mapM_eq_error_iff.2
      ⟨filesBefore, file, filesAfter, shape, fun earlier member => ?_,
        requireFile_of_unreadable absent⟩
    have among : earlier ∈ select wanted paths := by simp [shape, member]
    obtain ⟨inPaths, selected⟩ := isSelected_of_mem_select among
    obtain ⟨records, found⟩ := exists_finds selected (sound earlier.1 inPaths selected)
      (readable earlier.1 (List.mem_map_of_mem member))
    exact ⟨records, requireFile_of_finds (isNamed_of_mem_select earlier among) found⟩
  rw [ofPaths_of_sound sound, failed]
  rfl

end

/-- Files that all have records are harvested one after the other. -/
theorem ofPaths_of_finds {paths : List Path} {parts : List (List Record)}
    (found : List.Forall₂ (Finds fileSystem link) (paths.filter (IsSelected wanted)) parts) :
    ofPaths fileSystem link wanted paths =
      .ok ⟨parts.flatten, unselectedWarnings wanted paths⟩ := by
  have sound : ∀ path ∈ paths, IsSelected wanted path → ¬ Faults fileSystem link path := by
    intro path member selected
    have among : path ∈ paths.filter (IsSelected wanted) :=
      List.mem_filter.2 ⟨member, decide_eq_true selected⟩
    obtain ⟨records, -, finds⟩ := Traversal.exists_of_mem found path among
    exact finds.not_faults
  rw [← map_fst_select, List.forall₂_map_left_iff] at found
  have given : (select wanted paths).mapM (requireFile fileSystem link) = .ok parts :=
    Traversal.mapM_eq_ok_iff.2 (((List.forall₂_and_left _ _).2 ⟨isNamed_of_mem_select, found⟩).imp
      fun _ _ finds => requireFile_of_finds finds.1 finds.2)
  rw [ofPaths_of_sound sound, given]
  rfl

/-- Nothing is warned about where all files are selected and have records. -/
theorem ofPaths_of_selected {paths : List Path} {parts : List (List Record)}
    (selected : ∀ path ∈ paths, IsSelected wanted path)
    (found : List.Forall₂ (Finds fileSystem link) paths parts) :
    ofPaths fileSystem link wanted paths = .ok ⟨parts.flatten, []⟩ := by
  have all : paths.filter (IsSelected wanted) = paths :=
    List.filter_eq_self.2 fun path member => decide_eq_true (selected path member)
  have none : (paths.filter fun path => ¬ IsSelected wanted path) = [] :=
    List.filter_eq_nil_iff.2 fun path member => by simpa using selected path member
  have foundAll : List.Forall₂ (Finds fileSystem link)
      (paths.filter (IsSelected wanted)) parts := by
    rwa [all]
  rw [ofPaths_of_finds foundAll, unselectedWarnings, none]
  rfl

theorem ofTexts_of_finds {selected : List Path} {texts : List SourceText}
    {parts : List (List Record)}
    (held : List.Forall₂ (IsTextOf fileSystem) selected texts)
    (found : List.Forall₂ (Finds fileSystem link) selected parts) :
    ofTexts link texts = .ok ⟨parts.flatten, []⟩ := by
  induction held generalizing parts with
  | nil =>
      obtain rfl := List.forall₂_nil_left_iff.1 found
      rfl
  | @cons path text selected texts headHeld _ inductionHypothesis =>
      obtain ⟨records, others, headFound, tailFound, rfl⟩ := List.forall₂_cons_left_iff.1 found
      rw [ofTexts, ofText_of_finds headHeld headFound, inductionHypothesis tailFound]
      rfl

/-! ## Named files and texts -/

/-- A fault in any selected file that can be read is the answer. Otherwise the
first selected file that cannot be read is the error. Otherwise the records are
those of each selected file on its own, in order, and those of the texts that the
files hold; each path that is not selected is warned about, in order. Harvests of
texts are joined one after the other. -/
theorem ofPaths_refines_ofTexts (fileSystem : FileSystem) (link : Path → Text)
    (wanted : Option Language) (paths : List Path) :
    ((∃ path ∈ paths, IsSelected wanted path ∧ Faults fileSystem link path) →
      ∃ fault, ofPaths fileSystem link wanted paths = .error (.scan fault)) ∧
    ((∀ path ∈ paths, IsSelected wanted path → ¬ Faults fileSystem link path) →
      ((∃ path ∈ paths, IsSelected wanted path ∧ fileSystem.read? path = none) →
        ∃ path failure, IsFirstUnreadable fileSystem (paths.filter (IsSelected wanted)) path ∧
          ofPaths fileSystem link wanted paths = .error (.unreadableFile path) ∧
          Run.Stop.ofHarvest (.unreadableFile path) = .failure failure ∧
          failure.message = "Failed to read ".toList ++ path.shown) ∧
      ((∀ path ∈ paths, IsSelected wanted path → fileSystem.read? path ≠ none) →
        ∃ parts texts,
          List.Forall₂ (Finds fileSystem link) (paths.filter (IsSelected wanted)) parts ∧
          List.Forall₂ (IsTextOf fileSystem) (paths.filter (IsSelected wanted)) texts ∧
          ofPaths fileSystem link wanted paths =
            .ok ⟨parts.flatten, (paths.filter fun path => ¬ IsSelected wanted path).map fun path =>
              "Skipped ".toList ++ path.shown ++ ": unsupported file type".toList⟩ ∧
          ofTexts link texts = .ok ⟨parts.flatten, []⟩)) ∧
    ∀ firsts seconds, ofTexts link (firsts ++ seconds) =
      (ofTexts link firsts).bind fun first =>
        (ofTexts link seconds).map fun second => first ++ second := by
  have inSelected : ∀ {path}, path ∈ paths.filter (IsSelected wanted) ↔
      path ∈ paths ∧ IsSelected wanted path := by
    intro path
    rw [List.mem_filter, decide_eq_true_iff]
  refine ⟨ofPaths_of_faults, fun sound => ⟨?_, fun readable => ?_⟩, ofTexts_append⟩
  · rintro ⟨path, member, selected, absent⟩
    obtain ⟨first, isFirst⟩ := exists_isFirstUnreadable
      ⟨path, inSelected.2 ⟨member, selected⟩, absent⟩
    exact ⟨first, _, isFirst, ofPaths_of_isFirstUnreadable sound isFirst, rfl, rfl⟩
  · obtain ⟨parts, found⟩ : ∃ parts, List.Forall₂ (Finds fileSystem link)
        (paths.filter (IsSelected wanted)) parts := by
      refine Traversal.exists_forall₂ fun path member => ?_
      obtain ⟨among, selected⟩ := inSelected.1 member
      exact exists_finds selected (sound path among selected) (readable path among selected)
    obtain ⟨texts, held⟩ : ∃ texts, List.Forall₂ (IsTextOf fileSystem)
        (paths.filter (IsSelected wanted)) texts := by
      refine Traversal.exists_forall₂ fun path member => ?_
      obtain ⟨among, selected⟩ := inSelected.1 member
      obtain ⟨content, given⟩ := Option.ne_none_iff_exists'.1 (readable path among selected)
      exact ⟨⟨path, Utf8.decode content⟩, rfl, content, given, rfl⟩
    exact ⟨parts, texts, found, held, ofPaths_of_finds found, ofTexts_of_finds held found⟩

/-- A fault goes before a file in front of it that cannot be read. -/
example :
    ofPaths
      { entries :=
          [([Utf8.encode "a.java".toList], .brokenFile),
            ([Utf8.encode "b.java".toList],
              .file (Utf8.encode
                "class A \x7b\n// Trace(Jira:A-1)\nvoid\u00a0run() \x7b".toList))] }
      Path.shown none [.ofText "a.java".toList, .ofText "b.java".toList] =
        .error (.scan .splitCharacter) := rfl

end BacklogTrace.Harvest
