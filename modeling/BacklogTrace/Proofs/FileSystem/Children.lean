import BacklogTrace.Proofs.FileSystem.Lookup
import Mathlib.Data.List.Nodup

/-!
Contract: the entries of a directory.

The entries of a directory have different names, and each stands below it. A path
that leads to the directory leads on to an entry when the name of the entry is
joined to it, unless the entry is a link: the same links are followed, and what is
idle at the end of the path needs no more than the directory.

Owns: `children` as places, `FileSystem.place?_join`.

Does not own: where a link leads, which entries a walk enters (`Walk`).
-/

namespace BacklogTrace.FileSystem

variable {fileSystem : FileSystem} {place start : Place} {child : Bytes × Node}

/-! ## Names -/

theorem childAt?_eq_some_iff {entry : Place × Node} :
    childAt? place entry = some child ↔ entry = (place ++ [child.1], child.2) := by
  obtain ⟨entryPlace, node⟩ := entry
  cases entryPlace using List.reverseRecOn with
  | nil => simp [childAt?]
  | append_singleton before name =>
      rw [childAt?, List.getLast?_concat, List.dropLast_concat]
      by_cases inside : before = place
      · simp [inside, Prod.ext_iff]
      · simp [inside, Prod.ext_iff]

theorem mem_children_iff :
    child ∈ fileSystem.children place ↔ (place ++ [child.1], child.2) ∈ fileSystem.entries := by
  simp [children, List.mem_filterMap, childAt?_eq_some_iff]

theorem isName_of_mem_children (member : child ∈ fileSystem.children place) :
    Path.IsName child.1 :=
  fileSystem.isTree.named _ (mem_children_iff.1 member) child.1 (by simp)

/-- The entries of a directory have different names. -/
theorem pairwise_children (fileSystem : FileSystem) (place : Place) :
    (fileSystem.children place).Pairwise fun child other => child.1 ≠ other.1 := by
  rw [children, List.pairwise_filterMap]
  refine fileSystem.isTree.distinct.imp ?_
  intro entry other different child stands otherChild otherStands same
  rw [childAt?_eq_some_iff.1 stands, childAt?_eq_some_iff.1 otherStands, same] at different
  exact different rfl

theorem node?_of_mem_entries {entry : Place × Node} (member : entry ∈ fileSystem.entries) :
    fileSystem.node? entry.1 = some entry.2 := by
  have notEmpty : entry.1.isEmpty = false := by
    simpa using fileSystem.isTree.below entry member
  have first : fileSystem.entries.find? (fun other => other.1 == entry.1) = some entry := by
    obtain ⟨before, after, shape⟩ := List.append_of_mem member
    have distinct := fileSystem.isTree.distinct
    rw [shape] at distinct ⊢
    apply List.find?_eq_some_iff_append.2
    refine ⟨by simp, before, after, rfl, fun other earlier => ?_⟩
    have different := (List.pairwise_append.1 distinct).2.2 other earlier entry List.mem_cons_self
    simpa using different
  rw [node?, Entries.node?, notEmpty, if_neg Bool.false_ne_true, first]
  rfl

theorem node?_of_mem_children (member : child ∈ fileSystem.children place) :
    fileSystem.node? (place ++ [child.1]) = some child.2 :=
  node?_of_mem_entries (mem_children_iff.1 member)

/-! ## Paths -/

/-- Following more segments from wherever the first ones lead. -/
def Progress.extend (fileSystem : FileSystem) (more : List Bytes) : Progress → Option Progress
  | .arrived (.present place) => fileSystem.advance place more
  | .arrived (.vacant place) =>
      if more.isEmpty then some (.arrived (.vacant place)) else none
  | .detour directory others => some (.detour directory (others ++ more))

theorem advance_append (fileSystem : FileSystem) (start : Place) (segments more : List Bytes) :
    fileSystem.advance start (segments ++ more) =
      (fileSystem.advance start segments).bind (Progress.extend fileSystem more) := by
  induction segments generalizing start with
  | nil => rfl
  | cons segment rest inductionHypothesis =>
      rw [List.cons_append, advance, advance]
      split
      case isTrue => rfl
      case isFalse =>
        split
        case isTrue => exact inductionHypothesis start
        case isFalse =>
          split
          case isTrue => exact inductionHypothesis start.dropLast
          case isFalse =>
            cases fileSystem.node? (start ++ [segment]) with
            | none => cases rest <;> cases more <;> rfl
            | some node =>
                cases node with
                | regular file => exact inductionHypothesis _
                | directory => exact inductionHypothesis _
                | link target =>
                    simp [Progress.extend, List.append_assoc]

/-- Segments that go nowhere from where they are followed. -/
def Stays (fileSystem : FileSystem) (segments : List Bytes) : Prop :=
  ∀ place progress, fileSystem.advance place segments = some progress →
    progress = .arrived (.present place)

theorem stays_nil (fileSystem : FileSystem) : fileSystem.Stays [] :=
  fun _ _ advances => (Option.some.inj advances).symm

theorem stays_idle (fileSystem : FileSystem) : fileSystem.Stays [[]] := by
  intro place progress advances
  rw [advance] at advances
  split at advances
  case isTrue => exact absurd advances (by simp)
  case isFalse => exact (Option.some.inj advances).symm

theorem Stays.eq_present {tail : List Bytes} {progress : Progress}
    (stays : fileSystem.Stays tail)
    (arrives : progress.extend fileSystem tail = some (.arrived (.present place))) :
    progress = .arrived (.present place) := by
  cases progress with
  | arrived destination =>
      cases destination with
      | present reached =>
          have same := stays reached _ arrives
          rw [same]
      | vacant free =>
          rw [Progress.extend] at arrives
          split at arrives <;> simp at arrives
  | detour directory others => simp [Progress.extend] at arrives

theorem Stays.exists_eq_detour {tail others : List Bytes} {directory : Place}
    {progress : Progress} (stays : fileSystem.Stays tail)
    (met : progress.extend fileSystem tail = some (.detour directory others)) :
    ∃ before, progress = .detour directory before ∧ others = before ++ tail := by
  cases progress with
  | arrived destination =>
      cases destination with
      | present reached => exact absurd (stays reached _ met) (by simp)
      | vacant free =>
          rw [Progress.extend] at met
          split at met <;> simp at met
  | detour reached before =>
      cases met
      exact ⟨before, rfl, rfl⟩

/-- Where segments lead to a place, they lead on from there with others in place of
what goes nowhere at their end. -/
theorem Follows.extend {tail more segments : List Bytes} {destination : Destination} {links : Nat}
    (stays : fileSystem.Stays tail)
    (further : fileSystem.advance place more = some (.arrived destination))
    (follows : fileSystem.Follows links start (segments ++ tail) (.present place)) :
    fileSystem.Follows links start (segments ++ more) destination := by
  generalize whole : segments ++ tail = all at follows
  generalize ends : Destination.present place = reached at follows
  induction follows generalizing segments with
  | arrived advances =>
      cases ends
      rw [← whole] at advances
      have both := advance_eq_some_iff.2 advances
      rw [advance_append, Option.bind_eq_some_iff] at both
      obtain ⟨progress, first, arrives⟩ := both
      apply Follows.arrived
      apply advance_eq_some_iff.1
      rw [advance_append, first, stays.eq_present arrives]
      exact further
  | detour advances _ inductionHypothesis =>
      rw [← whole] at advances
      have both := advance_eq_some_iff.2 advances
      rw [advance_append, Option.bind_eq_some_iff] at both
      obtain ⟨progress, first, met⟩ := both
      obtain ⟨before, detour, others⟩ := stays.exists_eq_detour met
      refine .detour (advance_eq_some_iff.1 ?_) (inductionHypothesis others.symm ends)
      rw [advance_append, first, detour]
      rfl

/-- A name joined to a path is one more segment, in place of what is idle at its end
if it ends in a slash. -/
theorem exists_spelledSegments_join {path : Path} {name : Bytes} (nonempty : path.spelling ≠ [])
    (named : Path.IsName name) (fileSystem : FileSystem) :
    ∃ segments tail, fileSystem.Stays tail ∧ spelledSegments path = segments ++ tail ∧
      spelledSegments (path.join ⟨name⟩) = segments ++ [name] := by
  have piece : Sequence.splitOn Path.slash name = [name] :=
    Sequence.splitOn_of_not_mem named.noSlash
  have cut : ∀ before after : Bytes,
      Sequence.splitOn Path.slash (before ++ Path.slash :: after) =
        Sequence.splitOn Path.slash before ++ Sequence.splitOn Path.slash after :=
    Sequence.splitWhere_append_separator (· == Path.slash) (by simp)
  obtain ⟨spelling⟩ := path
  by_cases last : spelling.getLast? = some Path.slash
  · obtain ⟨front, rfl⟩ := List.getLast?_eq_some_iff.1 last
    refine ⟨Sequence.splitOn Path.slash front, [[]], fileSystem.stays_idle, cut front [], ?_⟩
    rw [Path.join_of_slash named, spelledSegments, cut, piece]
  · refine ⟨Sequence.splitOn Path.slash spelling, [], fileSystem.stays_nil,
      (List.append_nil _).symm, ?_⟩
    rw [Path.join_of_not_slash nonempty named last, spelledSegments, cut, piece]

theorem startOf_join {path : Path} {name : Bytes} (nonempty : path.spelling ≠ [])
    (named : Path.IsName name) (directory : Place) :
    startOf (path.join ⟨name⟩) directory = startOf path directory := by
  have same : (path.join ⟨name⟩).isAbsolute = path.isAbsolute := by
    rw [Path.join, named.not_isAbsolute, if_neg Bool.false_ne_true]
    obtain ⟨first, others, shape⟩ := List.exists_cons_of_ne_nil nonempty
    split <;> simp [Path.isAbsolute, shape]
  rw [startOf, startOf, same]

theorem advance_child (directory : fileSystem.node? place = some .directory)
    (member : child ∈ fileSystem.children place) (noLink : ∀ target, child.2 ≠ .link target) :
    fileSystem.advance place [child.1] = some (.arrived (.present (place ++ [child.1]))) := by
  have named := isName_of_mem_children member
  have there := node?_of_mem_children member
  exact advance_eq_some_iff.2 (.down directory named.busy named.notUp there noLink (.here _))

/-- A path that leads to a directory leads on to the entries that are no links. -/
theorem place?_join {path : Path} (nonempty : path.spelling ≠ [])
    (leads : fileSystem.place? path = some place)
    (directory : fileSystem.node? place = some .directory)
    (member : child ∈ fileSystem.children place) (noLink : ∀ target, child.2 ≠ .link target) :
    fileSystem.place? (path.join ⟨child.1⟩) = some (place ++ [child.1]) := by
  have named := isName_of_mem_children member
  have spelled := Path.spelling_join_ne_nil nonempty named
  obtain ⟨segments, tail, stays, whole, joined⟩ :=
    exists_spelledSegments_join nonempty named fileSystem
  rw [place?_eq_some_iff, locate, if_neg (by simpa using nonempty), whole] at leads
  have follows := (follow_eq_some_iff.1 leads).extend stays (advance_child directory member noLink)
  rw [place?_eq_some_iff, locate, if_neg (by simpa using spelled), joined,
    startOf_join nonempty named]
  exact follow_eq_some_iff.2 follows

end BacklogTrace.FileSystem
