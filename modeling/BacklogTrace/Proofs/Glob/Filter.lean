import BacklogTrace.Glob.Filter

/-!
Contract: what a filter admits, in terms of the texts it is read from.

A filter is read if every text is a pattern and the patterns of either kind can be
compiled. It then admits what some including text matches, or everything if there is
none, unless an excluding text matches it; that a compiled set matches what one of
its patterns matches is asked of the search. So the order of the texts and how often
each is given do not matter. What is bad is reported of the including texts before
the excluding ones are looked at.

Owns: `Glob.IsValid`, `Glob.IsBad`, `Glob.DecidedBy`, `Glob.Admits`.

Does not own: which texts are patterns, what a pattern matches (`FileSearch`).
-/

namespace BacklogTrace.Glob

/-! ## Texts that match -/

/-- Some including text matches a path, unless there is none, and no excluding
text does. -/
structure Admits (Matches : Text → Bytes → Prop) (included excluded : List Text) (path : Bytes) :
    Prop where
  isIncluded : included = [] ∨ ∃ text ∈ included, Matches (slashed text) path
  notExcluded : ∀ text ∈ excluded, ¬ Matches (slashed text) path

variable {Matches : Text → Bytes → Prop} {included excluded : List Text}

/-- The same texts admit the same paths, in any order and however often each is
given. -/
theorem Admits.congr {included' excluded' : List Text} {path : Bytes}
    (sameIncluded : ∀ text, text ∈ included' ↔ text ∈ included)
    (sameExcluded : ∀ text, text ∈ excluded' ↔ text ∈ excluded) :
    Admits Matches included' excluded' path ↔ Admits Matches included excluded path := by
  have empty : included' = [] ↔ included = [] := by
    simp only [List.eq_nil_iff_forall_not_mem, sameIncluded]
  constructor
  · rintro ⟨isIncluded, notExcluded⟩
    simp only [empty, sameIncluded] at isIncluded
    exact ⟨isIncluded, fun text member => notExcluded text ((sameExcluded text).2 member)⟩
  · rintro ⟨isIncluded, notExcluded⟩
    simp only [← empty, ← sameIncluded] at isIncluded
    exact ⟨isIncluded, fun text member => notExcluded text ((sameExcluded text).1 member)⟩

variable [FileSearch] {texts : List Text} {bad : BadPattern} {filter : Filter}

/-! ## Texts that are valid -/

/-- A text is read as a pattern. -/
def IsPattern (text : Text) : Prop :=
  FileSearch.isPattern (slashed text) = true

/-- Texts that are patterns and can be compiled together. -/
structure IsValid (texts : List Text) : Prop where
  patterns : ∀ text ∈ texts, IsPattern text
  compiled : ∃ isMatch, FileSearch.compile? (texts.map slashed) = some isMatch

/-- What is wrong with some texts: the first that is no pattern, or that they cannot be
compiled. -/
inductive IsBad (texts : List Text) : BadPattern → Prop
  | malformed {before after : List Text} {text : Text}
      (split : texts = before ++ text :: after)
      (earlier : ∀ other ∈ before, IsPattern other) (none : ¬ IsPattern text) :
      IsBad texts (.malformed text)
  | uncompiled (patterns : ∀ text ∈ texts, IsPattern text)
      (fails : FileSearch.compile? (texts.map slashed) = none) : IsBad texts .uncompiled

/-- What is wrong with including and excluding texts; the including ones go first. -/
def IsFirstBad (included excluded : List Text) (bad : BadPattern) : Prop :=
  IsBad included bad ∨ IsValid included ∧ IsBad excluded bad

/-! ## Reading -/

theorem find?_malformed_eq_none_iff :
    (texts.find? fun text => !FileSearch.isPattern (slashed text)) = none ↔
      ∀ text ∈ texts, IsPattern text := by
  rw [List.find?_eq_none]
  exact forall₂_congr fun text _ => by simp [IsPattern]

theorem find?_malformed_eq_some_iff {text : Text} :
    (texts.find? fun text => !FileSearch.isPattern (slashed text)) = some text ↔
      ∃ before after, texts = before ++ text :: after ∧
        (∀ other ∈ before, IsPattern other) ∧ ¬ IsPattern text := by
  rw [List.find?_eq_some_iff_append]
  constructor
  · rintro ⟨none, before, after, split, earlier⟩
    refine ⟨before, after, split, fun other member => ?_, by simpa [IsPattern] using none⟩
    simpa [IsPattern] using earlier other member
  · rintro ⟨before, after, split, earlier, none⟩
    refine ⟨by simpa [IsPattern] using none, before, after, split, fun other member => ?_⟩
    simpa [IsPattern] using earlier other member

theorem compile_eq_error_iff : compile texts = .error bad ↔ IsBad texts bad := by
  constructor
  · intro failed
    rw [compile] at failed
    split at failed
    case h_1 text malformed =>
      obtain ⟨before, after, split, earlier, none⟩ := find?_malformed_eq_some_iff.1 malformed
      rw [← Except.error.inj failed]
      exact .malformed split earlier none
    case h_2 patterns =>
      split at failed
      case h_1 fails =>
        rw [← Except.error.inj failed]
        exact .uncompiled (find?_malformed_eq_none_iff.1 patterns) fails
      case h_2 => exact absurd failed (by simp)
  · intro isBad
    rw [compile]
    cases isBad with
    | malformed split earlier none =>
        rw [find?_malformed_eq_some_iff.2 ⟨_, _, split, earlier, none⟩]
    | uncompiled patterns fails =>
        rw [find?_malformed_eq_none_iff.2 patterns, fails]

theorem compile_eq_ok_iff {isMatch : Bytes → Bool} :
    compile texts = .ok isMatch ↔
      (∀ text ∈ texts, IsPattern text) ∧ FileSearch.compile? (texts.map slashed) = some isMatch := by
  rw [compile, ← find?_malformed_eq_none_iff]
  cases texts.find? fun text => !FileSearch.isPattern (slashed text) with
  | some text => simp
  | none =>
      dsimp only
      cases FileSearch.compile? (texts.map slashed) <;> simp

theorem isValid_iff : IsValid texts ↔ ∃ isMatch, compile texts = .ok isMatch := by
  constructor
  · rintro ⟨patterns, isMatch, compiled⟩
    exact ⟨isMatch, compile_eq_ok_iff.2 ⟨patterns, compiled⟩⟩
  · rintro ⟨isMatch, given⟩
    obtain ⟨patterns, compiled⟩ := compile_eq_ok_iff.1 given
    exact ⟨patterns, isMatch, compiled⟩

theorem Filter.read_eq_ok_iff :
    Filter.read included excluded = .ok filter ↔
      ∃ includes excludes, compile included = .ok includes ∧ compile excluded = .ok excludes ∧
        filter = ⟨included.isEmpty, includes, excludes⟩ := by
  rw [Filter.read]
  cases compile included with
  | error bad => simp
  | ok includes =>
      cases compile excluded with
      | error bad => simp
      | ok excludes => simp [eq_comm]

/-- A filter is read from valid texts only, and from all of them. -/
theorem Filter.exists_read_iff :
    (∃ filter, Filter.read included excluded = .ok filter) ↔
      IsValid included ∧ IsValid excluded := by
  simp only [Filter.read_eq_ok_iff, isValid_iff]
  constructor
  · rintro ⟨_, includes, excludes, includedRead, excludedRead, -⟩
    exact ⟨⟨includes, includedRead⟩, ⟨excludes, excludedRead⟩⟩
  · rintro ⟨⟨includes, includedRead⟩, ⟨excludes, excludedRead⟩⟩
    exact ⟨_, includes, excludes, includedRead, excludedRead, rfl⟩

/-- A filter is not read exactly if something is wrong with the texts, and that is
reported. -/
theorem Filter.read_eq_error_iff :
    Filter.read included excluded = .error bad ↔ IsFirstBad included excluded bad := by
  rw [Filter.read, IsFirstBad, isValid_iff, ← compile_eq_error_iff, ← compile_eq_error_iff]
  cases compile included with
  | error first => simp
  | ok includes =>
      cases compile excluded with
      | error first => simp
      | ok excludes => simp

/-! ## What a filter admits -/

/-- Compiled patterns match what one of them matches. -/
def DecidedBy (Matches : Text → Bytes → Prop) : Prop :=
  ∀ texts isMatch, FileSearch.compile? texts = some isMatch →
    ∀ path, isMatch path = true ↔ ∃ text ∈ texts, Matches text path

theorem DecidedBy.compile_iff (decided : DecidedBy Matches) {isMatch : Bytes → Bool}
    (given : compile texts = .ok isMatch) (path : Bytes) :
    isMatch path = true ↔ ∃ text ∈ texts, Matches (slashed text) path := by
  rw [decided _ isMatch (compile_eq_ok_iff.1 given).2]
  constructor
  · rintro ⟨pattern, member, matched⟩
    obtain ⟨text, among, rfl⟩ := List.mem_map.1 member
    exact ⟨text, among, matched⟩
  · rintro ⟨text, among, matched⟩
    exact ⟨slashed text, List.mem_map_of_mem among, matched⟩

theorem Filter.admits_iff (decided : DecidedBy Matches)
    (given : Filter.read included excluded = .ok filter) (path : Bytes) :
    filter.admits path = true ↔ Admits Matches included excluded path := by
  obtain ⟨includes, excludes, includedRead, excludedRead, rfl⟩ := Filter.read_eq_ok_iff.1 given
  rw [Filter.admits, Bool.and_eq_true, Bool.or_eq_true, List.isEmpty_iff,
    decided.compile_iff includedRead, Bool.not_eq_true', ← Bool.not_eq_true,
    decided.compile_iff excludedRead]
  constructor
  · rintro ⟨isIncluded, notExcluded⟩
    exact ⟨isIncluded, fun text member matched => notExcluded ⟨text, member, matched⟩⟩
  · rintro ⟨isIncluded, notExcluded⟩
    exact ⟨isIncluded, fun ⟨text, member, matched⟩ => notExcluded text member matched⟩

end BacklogTrace.Glob
