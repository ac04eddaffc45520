import BacklogTrace.Proofs.Glob.Compiled
import BacklogTrace.Proofs.Harvest.Paths
import BacklogTrace.Proofs.Path.Order
import BacklogTrace.Proofs.Walk
import Mathlib.Data.List.Sort

/-!
Contract: the harvest of a tree.

Of the files that a walk lists those are chosen that are in the wanted language
and whose names below the root pass the patterns. They are scanned in the order
of paths, each once, so neither the order of the walk nor the order of the
patterns matters. A file that cannot be read is warned about, with its own reason,
and changes nothing else: the records are those of the other files, named one by
one. All of this is said of any search whose walk is a listing and whose compiled
patterns are decided one by one.

Owns: `Harvest.IsChosen`, `Harvest.choose` as a sorted list, what `Harvest.ofTree`
gives.

Does not own: what a walk lists (`Proofs.Walk`), what a filter admits
(`Proofs.Glob.Filter`).
-/

namespace BacklogTrace.Harvest

variable {fileSystem : FileSystem} {link : Path → Text} {wanted : Option Language}
  {Matches : Text → Bytes → Prop} {included excluded : List Text} {filter : Glob.Filter}
  {root : Path} {found : List Path} {items : List Walk.Item}

/-! ## What is chosen -/

/-- A path in the wanted language, whose names below the root pass the patterns. -/
structure IsChosen (Matches : Text → Bytes → Prop) (wanted : Option Language)
    (included excluded : List Text) (root path : Path) : Prop where
  selected : IsSelected wanted path
  admitted : ∃ names, (∀ name ∈ names, Path.IsName name) ∧ path = root.below names ∧
    Glob.Admits Matches included excluded (Path.spell names)

/-- The paths that are chosen, in the order in which they are scanned. -/
def chosenPaths (root : Path) (filter : Glob.Filter) (wanted : Option Language)
    (found : List Path) : List Path :=
  (choose root filter wanted found).map Prod.fst

theorem chosenPaths_perm (root : Path) (filter : Glob.Filter) (wanted : Option Language)
    (found : List Path) :
    (chosenPaths root filter wanted found).Perm
      ((found.filter fun path => filter.admits (Path.relativeTo root path).spelling).filter
        (IsSelected wanted)) := by
  have sorted := (List.mergeSort_perm (select wanted (found.filter fun path =>
    filter.admits (Path.relativeTo root path).spelling))
      (fun left right => Path.le left.1 right.1)).map Prod.fst
  rwa [map_fst_select] at sorted

theorem mem_chosenPaths_iff_admits (path : Path) :
    path ∈ chosenPaths root filter wanted found ↔
      path ∈ found ∧ IsSelected wanted path ∧
        filter.admits (Path.relativeTo root path).spelling = true := by
  rw [(chosenPaths_perm root filter wanted found).mem_iff, List.mem_filter, List.mem_filter,
    decide_eq_true_iff, and_assoc, and_comm (b := IsSelected _ _)]

/-- What is chosen of a listing by a filter that admits what the patterns do. -/
theorem mem_chosenPaths_iff (listed : Walk.IsListing fileSystem root items)
    (admits : ∀ path, filter.admits path = true ↔ Glob.Admits Matches included excluded path)
    (path : Path) :
    path ∈ chosenPaths root filter wanted (Walk.regularFiles items) ↔
      ((∃ isFile, Walk.Item.entry path isFile ∈ items) ∧ fileSystem.isFile path = true) ∧
        IsChosen Matches wanted included excluded root path := by
  rw [mem_chosenPaths_iff_admits, listed.mem_regularFiles_iff, admits]
  refine and_congr_right fun ⟨⟨isFile, member⟩, _⟩ => ?_
  have nonempty := listed.spelled path isFile member
  constructor
  · rintro ⟨selected, admitted⟩
    obtain ⟨names, named, rfl⟩ := listed.placed path isFile member
    rw [Path.relativeTo_below nonempty named] at admitted
    exact ⟨selected, names, named, rfl, admitted⟩
  · rintro ⟨selected, names, named, rfl, admitted⟩
    rw [Path.relativeTo_below nonempty named]
    exact ⟨selected, admitted⟩

/-- The chosen paths come one before the other. -/
theorem pairwise_before_chosenPaths (filter : Glob.Filter) (wanted : Option Language)
    (listed : Walk.IsListing fileSystem root items) :
    (chosenPaths root filter wanted (Walk.regularFiles items)).Pairwise Path.Before := by
  have perm := chosenPaths_perm root filter wanted (Walk.regularFiles items)
  have distinct : (chosenPaths root filter wanted (Walk.regularFiles items)).Nodup :=
    perm.nodup_iff.2 ((listed.distinct.filter _).filter _)
  have sorted : (chosenPaths root filter wanted (Walk.regularFiles items)).Pairwise
      fun left right => left.le right = true :=
    List.pairwise_map.2 (List.pairwise_mergeSort
      (fun first second third => Path.le_trans first.1 second.1 third.1)
      (fun first second => Path.le_total first.1 second.1) _)
  have inFound : ∀ path ∈ chosenPaths root filter wanted (Walk.regularFiles items),
      path ∈ Walk.regularFiles items := by
    intro path member
    exact List.mem_of_mem_filter (List.mem_of_mem_filter (perm.mem_iff.1 member))
  refine (sorted.and distinct).imp_of_mem fun {left right} member otherMember ⟨le, different⟩ => ?_
  refine Path.before_of_le le fun same => different ?_
  exact listed.eq_of_components_eq (inFound left member) (inFound right otherMember) same

/-- Sorted lists with the same members are the same. -/
theorem eq_of_pairwise_before {left right : List Path} (leftSorted : left.Pairwise Path.Before)
    (rightSorted : right.Pairwise Path.Before) (same : ∀ path, path ∈ left ↔ path ∈ right) :
    left = right := by
  have distinct : ∀ {paths : List Path}, paths.Pairwise Path.Before → paths.Nodup := by
    intro paths sorted
    refine sorted.imp ?_
    rintro path _ before rfl
    exact before.asymm before
  refine List.Perm.eq_of_pairwise (fun _ _ _ _ before after => absurd after before.asymm)
    leftSorted rightSorted ?_
  exact (List.perm_ext_iff_of_nodup (distinct leftSorted) (distinct rightSorted)).2 same

/-- What is scanned are the chosen paths, each in its language. -/
theorem choose_eq_select (root : Path) (filter : Glob.Filter) (wanted : Option Language)
    (found : List Path) :
    choose root filter wanted found = select wanted (chosenPaths root filter wanted found) := by
  refine (select_map_fst fun file member => ?_).symm
  exact (mem_select_iff.1 ((List.mergeSort_perm _ _).mem_iff.1 member)).2

theorem isNamed_of_mem_choose :
    ∀ file ∈ choose root filter wanted found, Selected.IsNamed file := by
  rw [choose_eq_select]
  exact isNamed_of_mem_select

/-! ## What is scanned -/

/-- A warning about a file that cannot be read, with the reason. -/
def WarnsOf (fileSystem : FileSystem) (path : Path) (warning : Text) : Prop :=
  ∃ reason, fileSystem.read path = .error reason ∧ warning = unreadableWarning path reason

theorem WarnsOf.exists_readFault {path : Path} {warning : Text}
    (warns : WarnsOf fileSystem path warning) (regular : fileSystem.isFile path = true) :
    ∃ file reason, fileSystem.file? path = some file ∧ file.readFault = some reason ∧
      warning = "Skipped ".toList ++ path.shown ++ ": ".toList ++ reason := by
  obtain ⟨reason, fails, same⟩ := warns
  obtain ⟨file, here⟩ := Option.isSome_iff_exists.1 regular
  exact ⟨file, reason, here, FileSystem.readFault_of_read here fails, same⟩

/-- The records are those of the files that can be read, and the others are warned
about. -/
theorem exists_keepReadable {files : List Selected} {outcomes : List Outcome}
    (named : ∀ file ∈ files, Selected.IsNamed file)
    (came : List.Forall₂ (fun file outcome => readAndScan fileSystem link file = .ok outcome)
      files outcomes) :
    ∃ parts warnings, List.Forall₂ (Finds fileSystem link)
        ((files.map Prod.fst).filter fun path => (fileSystem.read? path).isSome) parts ∧
      List.Forall₂ (WarnsOf fileSystem)
        ((files.map Prod.fst).filter fun path => (fileSystem.read? path).isNone) warnings ∧
      keepReadable outcomes = ⟨parts.flatten, warnings⟩ := by
  induction came with
  | nil => exact ⟨[], [], .nil, .nil, rfl⟩
  | @cons file outcome files outcomes first _ inductionHypothesis =>
      obtain ⟨fileNamed, othersNamed⟩ := List.forall_mem_cons.1 named
      obtain ⟨parts, warnings, found, warned, kept⟩ := inductionHypothesis othersNamed
      cases outcome with
      | unreadable path reason =>
          obtain ⟨rfl, fails⟩ := readAndScan_eq_unreadable_iff.1 first
          have absent := FileSystem.read?_eq_none_iff.2 ⟨reason, fails⟩
          refine ⟨parts, unreadableWarning file.1 reason :: warnings, ?_, ?_, ?_⟩
          · simpa [absent] using found
          · rw [List.map_cons, List.filter_cons_of_pos (by simp [absent])]
            exact .cons ⟨reason, fails, rfl⟩ warned
          · rw [keepReadable, kept, mk_append]
            rfl
      | scanned records =>
          have finds := (readAndScan_eq_scanned_iff fileNamed).1 first
          have readable := finds.isSome_read?
          refine ⟨records :: parts, warnings, ?_, ?_, ?_⟩
          · rw [List.map_cons, List.filter_cons_of_pos (by exact readable)]
            exact .cons finds found
          · rw [List.map_cons,
              List.filter_cons_of_neg (by simpa [Option.isSome_iff_ne_none] using readable)]
            exact warned
          · rw [keepReadable, kept, mk_append]
            rfl

/-- The chosen paths are scanned in their order. -/
theorem exists_ofFound {chosen : List Path}
    (same : chosenPaths root filter wanted found = chosen)
    (sound : ∀ path ∈ chosen, ¬ Faults fileSystem link path) :
    ∃ parts warnings, List.Forall₂ (Finds fileSystem link)
        (chosen.filter fun path => (fileSystem.read? path).isSome) parts ∧
      List.Forall₂ (WarnsOf fileSystem)
        (chosen.filter fun path => (fileSystem.read? path).isNone) warnings ∧
      ofFound fileSystem link wanted filter root found = .ok ⟨parts.flatten, warnings⟩ := by
  have files : (choose root filter wanted found).map Prod.fst = chosen := same
  obtain ⟨outcomes, given, came⟩ := exists_outcomes isNamed_of_mem_choose fun file member =>
    sound file.1 (files ▸ List.mem_map_of_mem member)
  obtain ⟨parts, warnings, paired, warned, kept⟩ :=
    exists_keepReadable isNamed_of_mem_choose came
  rw [files] at paired warned
  refine ⟨parts, warnings, paired, warned, ?_⟩
  rw [ofFound, given, ← kept]

/-- The harvest of a walk depends on the chosen paths alone. -/
theorem ofFound_congr {other : Glob.Filter} {others : List Path}
    (same : chosenPaths root filter wanted found = chosenPaths root other wanted others) :
    ofFound fileSystem link wanted filter root found =
      ofFound fileSystem link wanted other root others := by
  rw [ofFound, ofFound, choose_eq_select, choose_eq_select, same]

/-- Whatever the order of a listing, and whatever the order of the patterns, the
chosen paths are the same. -/
theorem chosenPaths_congr {included' excluded' : List Text} {other : Glob.Filter}
    {others : List Walk.Item} (listed : Walk.IsListing fileSystem root items)
    (admits : ∀ path, filter.admits path = true ↔ Glob.Admits Matches included excluded path)
    (otherAdmits : ∀ path, other.admits path = true ↔ Glob.Admits Matches included' excluded' path)
    (perm : others.Perm items)
    (sameIncluded : ∀ text, text ∈ included' ↔ text ∈ included)
    (sameExcluded : ∀ text, text ∈ excluded' ↔ text ∈ excluded) :
    chosenPaths root other wanted (Walk.regularFiles others) =
      chosenPaths root filter wanted (Walk.regularFiles items) := by
  have otherListed := listed.perm perm
  apply eq_of_pairwise_before (pairwise_before_chosenPaths other wanted otherListed)
    (pairwise_before_chosenPaths filter wanted listed)
  intro path
  rw [mem_chosenPaths_iff otherListed otherAdmits, mem_chosenPaths_iff listed admits]
  simp only [perm.mem_iff]
  refine and_congr_right fun _ => ⟨?_, ?_⟩
  · rintro ⟨selected, names, named, rfl, admitted⟩
    exact ⟨selected, names, named, rfl, (Glob.Admits.congr sameIncluded sameExcluded).1 admitted⟩
  · rintro ⟨selected, names, named, rfl, admitted⟩
    exact ⟨selected, names, named, rfl, (Glob.Admits.congr sameIncluded sameExcluded).2 admitted⟩

/-! ## The harvest of a tree -/

section

variable [search : FileSearch]

theorem ofTree_of_read (given : Glob.Filter.read included excluded = .ok filter) :
    ofTree fileSystem link wanted included excluded root =
      ofFound fileSystem link wanted filter root
        (Walk.regularFiles (search.walk fileSystem root)) := by
  rw [ofTree, given]

/-- What is scanned of a tree are the regular files of the walk that are chosen, each
once and in the order of paths. The records are those of the ones that can be read, as
if they were named one by one, and each of the others is warned about in its place,
with the reason for which it cannot be read. A search that walks in another order, and
another order and repetition of patterns, change nothing. -/
theorem ofTree_eq_chosen (decided : Glob.DecidedBy Matches)
    (listed : Walk.IsListing fileSystem root (search.walk fileSystem root))
    (includedValid : Glob.IsValid included) (excludedValid : Glob.IsValid excluded)
    (sound : ∀ path isFile, Walk.Item.entry path isFile ∈ search.walk fileSystem root →
      IsChosen Matches wanted included excluded root path → ¬ Faults fileSystem link path) :
    ∃ (chosen : List Path) (parts : List (List Record)) (warnings : List Text),
      chosen.Pairwise Path.Before ∧
      (∀ path, path ∈ chosen ↔
        ((∃ isFile, Walk.Item.entry path isFile ∈ search.walk fileSystem root) ∧
          fileSystem.isFile path = true) ∧
            IsChosen Matches wanted included excluded root path) ∧
      List.Forall₂ (Finds fileSystem link)
        (chosen.filter fun path => (fileSystem.read? path).isSome) parts ∧
      List.Forall₂ (fun path warning => ∃ file reason, fileSystem.file? path = some file ∧
          file.readFault = some reason ∧
            warning = "Skipped ".toList ++ path.shown ++ ": ".toList ++ reason)
        (chosen.filter fun path => (fileSystem.read? path).isNone) warnings ∧
      ofTree fileSystem link wanted included excluded root = .ok ⟨parts.flatten, warnings⟩ ∧
      ofPaths fileSystem link wanted (chosen.filter fun path => (fileSystem.read? path).isSome) =
        .ok ⟨parts.flatten, []⟩ ∧
      ∀ (other : FileSearch) (included' excluded' : List Text),
        @Glob.DecidedBy other Matches →
        (other.walk fileSystem root).Perm (search.walk fileSystem root) →
        (∀ text, text ∈ included' ↔ text ∈ included) →
        (∀ text, text ∈ excluded' ↔ text ∈ excluded) →
        @Glob.IsValid other included' → @Glob.IsValid other excluded' →
          @ofTree other fileSystem link wanted included' excluded' root =
            .ok ⟨parts.flatten, warnings⟩ := by
  obtain ⟨filter, given⟩ := Glob.Filter.exists_read_iff.2 ⟨includedValid, excludedValid⟩
  have admits := Glob.Filter.admits_iff decided given
  have members : ∀ path, path ∈ chosenPaths root filter wanted _ ↔
      ((∃ isFile, Walk.Item.entry path isFile ∈ search.walk fileSystem root) ∧
        fileSystem.isFile path = true) ∧ IsChosen Matches wanted included excluded root path :=
    mem_chosenPaths_iff listed admits
  obtain ⟨parts, warnings, found, warned, harvested⟩ := exists_ofFound rfl fun path member => by
    obtain ⟨⟨⟨isFile, walked⟩, -⟩, chosen⟩ := (members path).1 member
    exact sound path isFile walked chosen
  refine ⟨_, parts, warnings, pairwise_before_chosenPaths filter wanted listed, members, found,
    ?_, ?_, ?_, ?_⟩
  · have regular : ∀ path ∈ (chosenPaths root filter wanted _).filter
        fun path => (fileSystem.read? path).isNone, fileSystem.isFile path = true :=
      fun path member => ((members path).1 (List.mem_of_mem_filter member)).1.2
    exact ((List.forall₂_and_left _ _).2 ⟨regular, warned⟩).imp
      fun path warning both => both.2.exists_readFault both.1
  · rw [ofTree_of_read given]
    exact harvested
  · exact ofPaths_of_selected
      (fun path member => ((members path).1 (List.mem_of_mem_filter member)).2.selected) found
  · intro other included' excluded' otherDecided perm sameIncluded sameExcluded includedValid'
      excludedValid'
    obtain ⟨otherFilter, otherGiven⟩ :=
      (@Glob.Filter.exists_read_iff included' excluded' other).2 ⟨includedValid', excludedValid'⟩
    have otherAdmits := @Glob.Filter.admits_iff Matches included' excluded' other otherFilter
      otherDecided otherGiven
    rw [@ofTree_of_read _ _ _ _ _ _ _ other otherGiven, ofFound_congr
      (chosenPaths_congr listed admits otherAdmits perm sameIncluded sameExcluded)]
    exact harvested

end

/-- A file that may not be read below a directory, and beside the directory a file
that is scanned and one that is excluded. -/
def nestedTree : FileSystem where
  entries :=
    [([Utf8.encode "t".toList], .directory),
      ([Utf8.encode "t".toList, Utf8.encode "s.java".toList], .file []),
      ([Utf8.encode "t".toList, Utf8.encode "b.java".toList],
        .file (Utf8.encode "class B \x7b\n// Trace(Jira:B-1)\n@Test\nvoid second() \x7b".toList)),
      ([Utf8.encode "t".toList, Utf8.encode "a".toList], .directory),
      ([Utf8.encode "t".toList, Utf8.encode "a".toList, Utf8.encode "x.java".toList],
        .regular ⟨[], some "Permission denied (os error 13)".toList, false⟩)]

/-- The standard search, which walks the other way round. -/
@[reducible] def reversedSearch : FileSearch :=
  { FileSearch.standard with
    walk := fun fileSystem root => (Walk.items fileSystem root).reverse }

/-- The walk the other way round and a pattern given twice make no difference. -/
theorem ofTree_eq_chosen_nestedTree :
    Glob.DecidedBy Glob.Matches ∧
      Walk.IsListing nestedTree (.ofText "t".toList)
        (FileSearch.standard.walk nestedTree (.ofText "t".toList)) ∧
      Glob.IsValid ["*.java".toList] ∧ Glob.IsValid ["s*".toList] ∧
      (∀ path isFile, Walk.Item.entry path isFile ∈
          FileSearch.standard.walk nestedTree (.ofText "t".toList) →
        IsChosen Glob.Matches none ["*.java".toList] ["s*".toList] (.ofText "t".toList) path →
          ¬ Faults nestedTree Path.shown path) ∧
      @ofTree reversedSearch nestedTree Path.shown none ["*.java".toList, "*.java".toList]
          ["s*".toList] (.ofText "t".toList) =
        ofTree nestedTree Path.shown none ["*.java".toList] ["s*".toList] (.ofText "t".toList) := by
  have decided := Glob.decidedBy_matches
  have listed : Walk.IsListing nestedTree (.ofText "t".toList)
      (FileSearch.standard.walk nestedTree (.ofText "t".toList)) :=
    Walk.isListing_items nestedTree _
  have included : Glob.IsValid ["*.java".toList] := ⟨List.forall_mem_singleton.2 rfl, _, rfl⟩
  have excluded : Glob.IsValid ["s*".toList] := ⟨List.forall_mem_singleton.2 rfl, _, rfl⟩
  have walked : FileSearch.standard.walk nestedTree (.ofText "t".toList) =
      [.entry (.ofText "t".toList) false, .entry (.ofText "t/s.java".toList) true,
        .entry (.ofText "t/b.java".toList) true, .entry (.ofText "t/a".toList) false,
        .entry (.ofText "t/a/x.java".toList) true] := by
    decide +kernel
  have sound : ∀ path isFile, Walk.Item.entry path isFile ∈
      FileSearch.standard.walk nestedTree (.ofText "t".toList) →
        IsChosen Glob.Matches none ["*.java".toList] ["s*".toList] (.ofText "t".toList) path →
          ¬ Faults nestedTree Path.shown path := by
    intro path isFile member _
    rw [walked] at member
    simp only [List.mem_cons, Walk.Item.entry.injEq, List.not_mem_nil, or_false] at member
    obtain ⟨rfl, -⟩ | ⟨rfl, -⟩ | ⟨rfl, -⟩ | ⟨rfl, -⟩ | ⟨rfl, -⟩ := member
    · exact not_faults_of_unreadable rfl
    · exact Finds.not_faults ⟨.java, _, rfl, rfl, rfl⟩
    · exact Finds.not_faults ⟨.java, _, rfl, rfl, rfl⟩
    · exact not_faults_of_unreadable rfl
    · exact not_faults_of_unreadable rfl
  obtain ⟨_, _, _, -, -, -, -, harvest, -, anyOrder⟩ :=
    ofTree_eq_chosen decided listed included excluded sound
  have isPattern : Glob.IsPattern "*.java".toList := rfl
  have twice : Glob.IsValid ["*.java".toList, "*.java".toList] :=
    ⟨List.forall_mem_cons.2 ⟨isPattern, List.forall_mem_singleton.2 isPattern⟩, _, rfl⟩
  have same := anyOrder reversedSearch ["*.java".toList, "*.java".toList] ["s*".toList] decided
    (List.reverse_perm _) (fun text => by simp) (fun text => Iff.rfl)
    (@Glob.IsValid.mk reversedSearch _ twice.patterns twice.compiled)
    (@Glob.IsValid.mk reversedSearch _ excluded.patterns excluded.compiled)
  exact ⟨decided, listed, included, excluded, sound, same.trans harvest.symm⟩

end BacklogTrace.Harvest
