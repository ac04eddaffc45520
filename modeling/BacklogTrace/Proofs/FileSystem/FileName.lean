import BacklogTrace.Proofs.FileSystem.Lookup

/-!
Contract: paths that lead to files end in a name.

Above what is there is a directory. What is idle needs a directory, and two dots lead
to one, so a path that leads to something else has a name as its last step. A link
that is met on the way is a name itself, and what its target ends in does not matter.

Owns: `FileSystem.EndsInName`, `fileName?` of a file.

Does not own: relative to which directory a file is linked (`Proofs.Location`).
-/

namespace BacklogTrace

open BacklogTrace.Path (componentsOf componentsOf_append componentOf isIdle)

namespace FileSystem

variable {fileSystem : FileSystem} {place start : Place} {segments : List Bytes}

/-! ## The last step -/

/-- Segments whose last step is a name. -/
def EndsInName (segments : List Bytes) : Prop :=
  ∃ name, (componentsOf segments).getLast? = some (.named name)

theorem EndsInName.prepend (ends : EndsInName segments) (front : List Bytes) :
    EndsInName (front ++ segments) := by
  obtain ⟨name, last⟩ := ends
  refine ⟨name, ?_⟩
  rw [componentsOf_append, List.getLast?_append, last]
  rfl

theorem endsInName_singleton {segment : Bytes} (busy : isIdle segment = false)
    (notUp : segment ≠ [Path.dot, Path.dot]) : EndsInName [segment] := by
  have step : componentOf segment = .named segment := if_neg notUp
  exact ⟨segment, by simp [componentsOf, busy, step]⟩

/-- What follows a name ends in a name, or the name is the last step. -/
theorem EndsInName.replace {before front rest : List Bytes} {segment : Bytes}
    (ends : EndsInName (before ++ rest)) (busy : isIdle segment = false)
    (notUp : segment ≠ [Path.dot, Path.dot]) : EndsInName (front ++ segment :: rest) := by
  obtain ⟨name, last⟩ := ends
  rw [componentsOf_append, List.getLast?_append] at last
  have single := endsInName_singleton busy notUp
  apply EndsInName.prepend
  cases steps : (componentsOf rest).getLast? with
  | none =>
      obtain ⟨own, lastOwn⟩ := single
      refine ⟨own, ?_⟩
      rw [← List.singleton_append, componentsOf_append, List.getLast?_append, steps, lastOwn]
      rfl
  | some step =>
      rw [steps, Option.some_or] at last
      have ends : EndsInName rest := ⟨name, steps.trans last⟩
      exact ends.prepend [segment]

/-- Segments lead to a directory, end in a name, or lead nowhere. -/
theorem Advances.directory_or_endsInName
    (advances : fileSystem.Advances start segments (.arrived (.present place))) :
    fileSystem.node? place = some .directory ∨ EndsInName segments ∨
      segments = [] ∧ place = start := by
  generalize reaches : Progress.arrived (.present place) = progress at advances
  induction advances with
  | here _ =>
      cases reaches
      exact .inr (.inr ⟨rfl, rfl⟩)
  | vacant _ _ _ _ => exact absurd reaches (by simp)
  | detour _ _ _ _ => exact absurd reaches (by simp)
  | @idle _ segment rest _ directory _ _ inductionHypothesis =>
      obtain isDirectory | ends | ⟨-, same⟩ := inductionHypothesis reaches
      · exact .inl isDirectory
      · exact .inr (.inl (ends.prepend [segment]))
      · exact .inl (same ▸ directory)
  | @up _ segment rest _ directory _ _ _ inductionHypothesis =>
      obtain isDirectory | ends | ⟨-, same⟩ := inductionHypothesis reaches
      · exact .inl isDirectory
      · exact .inr (.inl (ends.prepend [segment]))
      · exact .inl (same ▸ node?_dropLast directory)
  | @down _ segment rest _ _ _ busy notUp _ _ _ inductionHypothesis =>
      obtain isDirectory | ends | ⟨nothing, -⟩ := inductionHypothesis reaches
      · exact .inl isDirectory
      · exact .inr (.inl (ends.prepend [segment]))
      · rw [nothing]
        exact .inr (.inl (endsInName_singleton busy notUp))

theorem Follows.directory_or_endsInName {links : Nat}
    (follows : fileSystem.Follows links start segments (.present place)) :
    fileSystem.node? place = some .directory ∨ EndsInName segments ∨
      segments = [] ∧ place = start := by
  generalize reaches : Destination.present place = destination at follows
  induction follows with
  | arrived advances =>
      cases reaches
      exact advances.directory_or_endsInName
  | detour advances _ inductionHypothesis =>
      obtain ⟨front, segment, target, rest, shape, busy, notUp, others⟩ := advances.meetsLink
      obtain isDirectory | ends | ⟨nothing, -⟩ := inductionHypothesis reaches
      · exact .inl isDirectory
      · rw [others] at ends
        rw [shape]
        exact .inr (.inl (ends.replace busy notUp))
      · rw [others] at nothing
        have spelled := Sequence.splitWhere_ne_nil (· == Path.slash) target.spelling
        exact absurd (List.append_eq_nil_iff.1 nothing).1 spelled

/-- Where a path begins at the top or with a dot, its first segment is idle. -/
theorem componentsOf_spelledSegments (path : Path) :
    componentsOf (spelledSegments path) = componentsOf path.segments := by
  obtain ⟨spelling⟩ := path
  rw [spelledSegments, Path.segments]
  dsimp only
  have cut : ∀ (front rest : Bytes), Path.slash ∉ front → isIdle front = true →
      componentsOf (Sequence.splitOn Path.slash (front ++ Path.slash :: rest)) =
        componentsOf (Sequence.splitOn Path.slash rest) := by
    intro front rest noSlash idle
    rw [Sequence.splitOn_append_cons noSlash, ← List.singleton_append, componentsOf_append,
      Path.componentsOf_of_idle (List.forall_mem_singleton.2 idle)]
    rfl
  generalize Path.anchored spelling = parts, Path.isAnchored_anchored spelling = begins
  cases begins with
  | nothing => rfl
  | top rest => exact cut [] rest (by decide) rfl
  | dot => rfl
  | here rest =>
      exact (cut [Path.dot] rest (by decide) rfl).trans (cut [] rest (by decide) rfl).symm
  | busy _ _ => rfl

theorem exists_place_of_isFile {path : Path} (file : fileSystem.isFile path = true) :
    ∃ place, fileSystem.locate path = some (.present place) ∧
      fileSystem.node? place ≠ some .directory := by
  obtain ⟨found, target⟩ := isFile_iff.1 file
  rw [target?, Option.bind_eq_some_iff] at target
  obtain ⟨place, leads, there⟩ := target
  refine ⟨place, place?_eq_some_iff.1 leads, ?_⟩
  rw [there]
  simp

/-- A path that leads to a file ends in a name. -/
theorem exists_fileName?_of_isFile {path : Path}
    (file : fileSystem.isFile path = true) : ∃ name, path.fileName? = some name := by
  obtain ⟨place, leads, noDirectory⟩ := exists_place_of_isFile file
  have ends : EndsInName (spelledSegments path) := by
    rw [locate] at leads
    split at leads
    case isTrue => exact absurd leads (by simp)
    case isFalse =>
      have follows := follow_eq_some_iff.1 leads
      obtain directory | ends | ⟨nothing, -⟩ := follows.directory_or_endsInName
      · exact absurd directory noDirectory
      · exact ends
      · exact absurd nothing (Sequence.splitWhere_ne_nil (· == Path.slash) path.spelling)
  obtain ⟨name, last⟩ := ends
  rw [componentsOf_spelledSegments] at last
  refine ⟨name, ?_⟩
  rw [Path.fileName?, Path.components, List.getLast?_append, last]
  rfl

end FileSystem

end BacklogTrace
