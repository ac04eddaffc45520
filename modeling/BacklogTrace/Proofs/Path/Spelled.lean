import BacklogTrace.Proofs.Path.Below

/-!
Contract: paths that are spelled out of segments.

A path is where it begins and its segments with slashes between them. Segments can
be spelled behind a beginning if the path that they spell begins there too: behind a
dot the first one is empty, and behind nothing it is busy. What holds of all segments
of a path holds of the first few, so the directory of a path begins where the path
does.

Names that are spelled as one path lead to the same place as if they were joined one
after the other, and the root is taken off again however it is spelled, the empty
root included. Relative to the directory that it is in, a path is its own last name.

Owns: `Path.Anchor.Begins`, joining spelled names, paths relative to their directory.

Does not own: names that are joined one after the other (`Proofs.Path.Below`).
-/

namespace BacklogTrace.Path

/-! ## Segments behind a beginning -/

/-- Segments that can be spelled behind a beginning. -/
def Anchor.Begins : Anchor → List Bytes → Prop
  | .top, _ => True
  | .here, segments => ∀ first rest, segments = first :: rest → first = []
  | .relative, segments =>
      segments = [[]] ∨ ∀ first rest, segments = first :: rest → isIdle first = false

theorem Anchor.Begins.of_append {anchor : Anchor} {segments rest : List Bytes}
    (begins : anchor.Begins (segments ++ rest)) : anchor.Begins segments := by
  cases anchor with
  | top => trivial
  | here =>
      intro first others shape
      exact begins first (others ++ rest) (by rw [shape]; rfl)
  | relative =>
      cases segments with
      | nil => exact .inr fun _ _ shape => absurd shape (by simp)
      | cons first others =>
          apply begins.imp
          · intro single
            obtain ⟨same, none⟩ := List.cons.inj single
            rw [same, (List.append_eq_nil_iff.1 none).1]
          · intro busy other rest' shape
            exact busy other (rest' ++ rest) (by rw [shape]; rfl)

theorem begins_segments (path : Path) : path.anchor.Begins path.segments := by
  obtain ⟨spelling⟩ := path
  rw [anchor, segments]
  dsimp only
  generalize anchored spelling = parts, isAnchored_anchored spelling = begins
  cases begins with
  | nothing => exact .inl rfl
  | top rest => trivial
  | dot =>
      intro segment rest shape
      exact (List.cons.inj shape).1.symm
  | here rest =>
      intro segment later shape
      have split := Sequence.splitOn_append_cons (List.not_mem_nil (a := slash)) rest
      exact (List.cons.inj (split.symm.trans shape)).1.symm
  | busy split busy =>
      apply Or.inr
      intro segment later shape
      dsimp only at shape
      rw [split] at shape
      rw [← (List.cons.inj shape).1]
      exact busy

theorem spell_cons (name : Bytes) (names : List Bytes) :
    spell (name :: names) = name ++ names.flatMap (slash :: ·) := by
  induction names generalizing name with
  | nil => simp [spell]
  | cons next others inductionHypothesis =>
      have rest := inductionHypothesis next
      unfold spell at rest ⊢
      rw [List.intercalate_cons_cons, rest]
      simp

/-- Segments are spelled behind a beginning, and read back from there. -/
theorem anchored_spell {anchor : Anchor} {segments : List Bytes}
    (begins : anchor.Begins segments) (noSlash : ∀ segment ∈ segments, slash ∉ segment) :
    anchored (anchor.spelling ++ spell segments) = (anchor, spell segments) := by
  cases anchor with
  | top =>
      have top : anchored (slash :: spell segments) = (.top, spell segments) := by
        rw [anchored, if_pos rfl]
      exact top
  | here =>
      have notTop : dot ≠ slash := by decide
      have ends : (spell segments).isEmpty = true ∨ (spell segments).head? = some slash := by
        cases segments with
        | nil => exact .inl rfl
        | cons first rest =>
            rw [begins first rest rfl, spell_cons]
            cases rest with
            | nil => exact .inl rfl
            | cons next others => exact .inr rfl
      have here : anchored (dot :: spell segments) = (.here, spell segments) := by
        rw [anchored, if_neg notTop, if_pos ⟨rfl, ends⟩]
      exact here
  | relative =>
      cases segments with
      | nil => rfl
      | cons first rest =>
          cases first with
          | nil =>
              cases begins with
              | inl single => rw [single]; rfl
              | inr busy => exact absurd (busy [] rest rfl) (by decide)
          | cons character segment =>
              have busy : isIdle (character :: segment) = false := by
                cases begins with
                | inl single => exact absurd single (by simp)
                | inr busy => exact busy _ rest rfl
              have plain := noSlash _ List.mem_cons_self
              rw [List.mem_cons, not_or] at plain
              rw [spell_cons]
              apply (if_neg (Ne.symm plain.1)).trans
              apply if_neg
              intro here
              have atDot := here.1
              have alone := here.2
              cases segment with
              | nil =>
                  rw [atDot] at busy
                  exact absurd busy (by decide)
              | cons second later =>
                  apply alone.elim
                  · simp
                  · intro slashed
                    rw [List.mem_cons, not_or] at plain
                    exact plain.2.1 (Option.some.inj slashed).symm

section

variable {anchor : Anchor} {segments : List Bytes}

theorem anchor_spelled (begins : anchor.Begins segments)
    (noSlash : ∀ segment ∈ segments, slash ∉ segment) :
    (Path.mk (anchor.spelling ++ spell segments)).anchor = anchor :=
  congrArg Prod.fst (anchored_spell begins noSlash)

/-- Segments that are spelled take the steps that they stand for. -/
theorem components_spelled (begins : anchor.Begins segments)
    (noSlash : ∀ segment ∈ segments, slash ∉ segment) :
    (Path.mk (anchor.spelling ++ spell segments)).components =
      anchor.component?.toList ++ componentsOf segments := by
  have split : componentsOf (Sequence.splitOn slash (spell segments)) = componentsOf segments := by
    cases segments with
    | nil => rfl
    | cons first rest =>
        rw [spell, Sequence.splitOn_intercalate (List.cons_ne_nil _ _) noSlash]
  rw [components, anchor_spelled begins noSlash, Path.segments, anchored_spell begins noSlash,
    split]

end

/-! ## Spelled names -/

section

variable {root : Path} {names : List Bytes}

theorem begins_of_names (named : ∀ name ∈ names, IsName name) : Anchor.relative.Begins names := by
  apply Or.inr
  intro first rest shape
  have member : first ∈ names := by
    rw [shape]
    exact List.mem_cons_self
  exact (named first member).busy

theorem components_spell (named : ∀ name ∈ names, IsName name) :
    (Path.mk (spell names)).components = names.map .named := by
  have spelled := components_spelled (begins_of_names named) fun name member =>
    (named name member).noSlash
  exact spelled.trans (componentsOf_of_names named)

theorem dropIdleEnd_of_names (named : ∀ name ∈ names, IsName name) :
    dropIdleEnd names = names := by
  cases names using List.reverseRecOn with
  | nil => rfl
  | append_singleton earlier last =>
      have busy := (named last (by simp)).busy
      exact Sequence.dropEndWhile_append_of_not isIdle earlier busy

/-- Nothing is idle at the end of names that are spelled. -/
theorem trimEnd_spell (nonempty : names ≠ []) (named : ∀ name ∈ names, IsName name) :
    (Path.mk (spell names)).trimEnd = ⟨spell names⟩ := by
  have noSlash : ∀ name ∈ names, slash ∉ name := fun name member => (named name member).noSlash
  have spelled : anchored (spell names) = (.relative, spell names) :=
    anchored_spell (begins_of_names named) noSlash
  have split : Sequence.splitOn slash (spell names) = names :=
    Sequence.splitOn_intercalate nonempty noSlash
  have trimmed := dropIdleEnd_of_names named
  simp [trimEnd, anchor, segments, spelled, split, trimmed, Anchor.spelling]

/-- What follows a name in a spelling follows it where the name is joined. -/
theorem join_append {name : Bytes} (named : IsName name) (rest : Bytes) :
    root.join ⟨name ++ rest⟩ = ⟨(root.join ⟨name⟩).spelling ++ rest⟩ := by
  have relative : (Path.mk (name ++ rest)).isAbsolute = false := by
    have first : (name ++ rest).head? = name.head? := by
      cases name with
      | nil => exact absurd rfl named.ne_nil
      | cons _ _ => rfl
    have begins := named.not_isAbsolute
    rw [isAbsolute] at begins ⊢
    rw [first, begins]
  rw [join, join, relative, named.not_isAbsolute]
  split
  · exact absurd ‹_› Bool.false_ne_true
  · split <;> simp

theorem below_of_not_slash (nonempty : root.spelling ≠ [])
    (last : root.spelling.getLast? ≠ some slash) (named : ∀ name ∈ names, IsName name) :
    root.below names = ⟨root.spelling ++ names.flatMap (slash :: ·)⟩ := by
  induction names generalizing root with
  | nil => simp
  | cons name names inductionHypothesis =>
      obtain ⟨first, others⟩ := List.forall_mem_cons.1 named
      rw [below_cons, inductionHypothesis (spelling_join_ne_nil nonempty first)
        (getLast?_spelling_join nonempty first) others, join_of_not_slash nonempty first last]
      simp

/-- Names that are spelled as one path lead to where they lead one after the
other. -/
theorem join_spell (nonempty : root.spelling ≠ []) (some : names ≠ [])
    (named : ∀ name ∈ names, IsName name) : root.join ⟨spell names⟩ = root.below names := by
  cases names with
  | nil => exact absurd rfl some
  | cons name names =>
      obtain ⟨first, others⟩ := List.forall_mem_cons.1 named
      rw [spell_cons, join_append first, below_cons,
        below_of_not_slash (spelling_join_ne_nil nonempty first)
          (getLast?_spelling_join nonempty first) others]

/-- A root is taken off again, however it is spelled. -/
theorem relativeTo_join (root : Path) (some : names ≠ [])
    (named : ∀ name ∈ names, IsName name) :
    relativeTo root (root.join ⟨spell names⟩) = ⟨spell names⟩ := by
  by_cases nonempty : root.spelling = []
  · obtain ⟨spelling⟩ := root
    rw [show spelling = [] from nonempty]
    have joined : (Path.mk []).join ⟨spell names⟩ = ⟨spell names⟩ := by
      rw [join]
      split <;> rfl
    have whole : relativeTo? ⟨[]⟩ ⟨spell names⟩ = .some (Path.mk (spell names)).trimEnd := rfl
    rw [joined, relativeTo, whole, trimEnd_spell some named]
    rfl
  · rw [join_spell nonempty some named, relativeTo_below nonempty named]

end

/-! ## Paths that end in a name -/

theorem slash_not_mem_of_mem_splitOn {spelling segment : Bytes}
    (member : segment ∈ Sequence.splitOn slash spelling) : slash ∉ segment :=
  Sequence.forall_beq_eq_false_iff.1
    (Sequence.not_separates_of_mem_splitWhere (· == slash) spelling segment member)

/-- The last step by a name is a segment behind which all are idle. -/
theorem exists_last_segment {segments : List Bytes} {name : Bytes}
    (last : (componentsOf segments).getLast? = some (.named name)) :
    ∃ before after, segments = before ++ name :: after ∧ isIdle name = false ∧
      name ≠ [dot, dot] ∧ ∀ segment ∈ after, isIdle segment = true := by
  induction segments using List.reverseRecOn with
  | nil => exact absurd last (by simp [componentsOf])
  | append_singleton earlier segment inductionHypothesis =>
      rw [componentsOf_append] at last
      by_cases still : isIdle segment = true
      · have none : componentsOf [segment] = [] :=
          componentsOf_of_idle (List.forall_mem_singleton.2 still)
        rw [none, List.append_nil] at last
        obtain ⟨before, after, shape, busy, notUp, afterIdle⟩ := inductionHypothesis last
        refine ⟨before, after ++ [segment], ?_, busy, notUp, ?_⟩
        · rw [shape, List.append_assoc, List.cons_append]
        · exact List.forall_mem_append.2 ⟨afterIdle, List.forall_mem_singleton.2 still⟩
      · have step : componentsOf [segment] = [componentOf segment] := by
          simp [componentsOf, still]
        rw [step, List.getLast?_concat, componentOf] at last
        split at last
        case isTrue => exact absurd (Option.some.inj last) (by simp)
        case isFalse notUp =>
          have same : segment = name := Component.named.inj (Option.some.inj last)
          rw [← same]
          exact ⟨earlier, [], rfl, eq_false_of_ne_true still, notUp, List.forall_mem_nil _⟩

section

variable {path : Path} {name : Bytes}

/-- A path that ends in a name has it as its last segment that is not idle. -/
theorem exists_last_of_fileName? (ends : path.fileName? = some name) :
    ∃ before after, path.segments = before ++ name :: after ∧ IsName name ∧
      ∀ segment ∈ after, isIdle segment = true := by
  have last : path.components.getLast? = some (.named name) := by
    rw [fileName?] at ends
    split at ends
    case h_1 given => rw [given, Option.some.inj ends]
    case h_2 => exact absurd ends (by simp)
  have inSegments : (componentsOf path.segments).getLast? = some (.named name) := by
    rw [components] at last
    cases steps : componentsOf path.segments with
    | nil =>
        rw [steps, List.append_nil] at last
        cases begins : path.anchor <;> simp [begins, Anchor.component?] at last
    | cons step others =>
        rw [steps, List.getLast?_append_of_ne_nil _ (List.cons_ne_nil _ _)] at last
        exact last
  obtain ⟨before, after, shape, busy, notUp, afterIdle⟩ := exists_last_segment inSegments
  have member : name ∈ path.segments := by
    rw [shape]
    simp
  exact ⟨before, after, shape, ⟨slash_not_mem_of_mem_splitOn member, busy, notUp⟩, afterIdle⟩

/-- Where a path that has a name ends. -/
theorem isName_of_fileName? (ends : path.fileName? = some name) : IsName name := by
  obtain ⟨_, _, -, named, -⟩ := exists_last_of_fileName? ends
  exact named

/-- What is idle after a name is dropped from the end, and the name is not. -/
theorem dropIdleEnd_of_last {before after : List Bytes} (busy : isIdle name = false)
    (afterIdle : ∀ segment ∈ after, isIdle segment = true) :
    dropIdleEnd (before ++ name :: after) = before ++ [name] := by
  rw [List.append_cons]
  have dropped := Sequence.dropEndWhile_append_of_forall isIdle (before ++ [name]) afterIdle
  exact dropped.trans (Sequence.dropEndWhile_append_of_not isIdle before busy)

theorem parent?_of_segments {before after : List Bytes}
    (shape : path.segments = before ++ name :: after) (busy : isIdle name = false)
    (afterIdle : ∀ segment ∈ after, isIdle segment = true) :
    path.parent? = some ⟨path.anchor.spelling ++ spell (dropIdleEnd before)⟩ := by
  have kept : dropIdleEnd path.segments = before ++ [name] := by
    rw [shape, dropIdleEnd_of_last busy afterIdle]
  rw [parent?, kept]
  split
  case h_1 nothing => exact absurd nothing (by simp)
  case h_2 whole =>
    rw [← whole, List.dropLast_concat]

/-- The directory of a path that ends in a name takes the steps before the name. -/
theorem exists_parent_of_fileName? (ends : path.fileName? = some name) :
    ∃ before after parent, path.segments = before ++ name :: after ∧ IsName name ∧
      (∀ segment ∈ after, isIdle segment = true) ∧ path.parent? = some parent ∧
      parent.components = path.anchor.component?.toList ++ componentsOf before := by
  obtain ⟨before, after, shape, named, afterIdle⟩ := exists_last_of_fileName? ends
  refine ⟨before, after, _, shape, named, afterIdle,
    parent?_of_segments shape named.busy afterIdle, ?_⟩
  obtain ⟨idle, ending, allIdle⟩ := Sequence.exists_append_of_dropEndWhile isIdle before
  have begins : path.anchor.Begins (dropIdleEnd before) := by
    have whole := path.begins_segments
    rw [shape, ending, List.append_assoc] at whole
    exact whole.of_append
  have noSlash : ∀ segment ∈ dropIdleEnd before, slash ∉ segment := by
    intro segment member
    have inSegments : segment ∈ path.segments := by
      rw [shape]
      exact List.mem_append_left _ (Sequence.mem_of_mem_dropEndWhile member)
    exact slash_not_mem_of_mem_splitOn inSegments
  have sameSteps : componentsOf before = componentsOf (dropIdleEnd before) := by
    conv_lhs => rw [ending, componentsOf_append, componentsOf_of_idle allIdle, List.append_nil]
    rfl
  rw [sameSteps]
  exact components_spelled begins noSlash

/-- Where no step comes before a name, nothing is spelled before it. -/
theorem eq_nil_of_no_step {anchor : Anchor} {before after : List Bytes}
    (begins : anchor.Begins (before ++ name :: after))
    (nowhere : anchor.component?.toList ++ componentsOf before = []) :
    anchor = .relative ∧ before = [] := by
  obtain ⟨noStep, allIdle⟩ := List.append_eq_nil_iff.1 nowhere
  cases anchor with
  | top => exact absurd noStep (by decide)
  | here => exact absurd noStep (by decide)
  | relative =>
      refine ⟨rfl, ?_⟩
      cases before with
      | nil => rfl
      | cons first others =>
          have busy : isIdle first = false := by
            cases begins with
            | inl single => exact absurd single (by simp)
            | inr busy => exact busy first (others ++ name :: after) rfl
          exact absurd allIdle (by simp [componentsOf, busy])

/-- Relative to the directory that it is in, a path is its own last name. -/
theorem relativeTo_parent (ends : path.fileName? = some name) :
    relativeTo (path.parent?.getD ⟨[]⟩) path = ⟨name⟩ := by
  obtain ⟨before, after, parent, shape, named, afterIdle, above, steps⟩ :=
    exists_parent_of_fileName? ends
  rw [relativeTo, above, Option.getD_some]
  by_cases nowhere : parent.components = []
  · have whole : path.trimEnd = ⟨name⟩ := by
      have begins := path.begins_segments
      rw [shape] at begins
      obtain ⟨relative, nothing⟩ := eq_nil_of_no_step begins (steps.symm.trans nowhere)
      rw [trimEnd, relative, shape, dropIdleEnd_of_last named.busy afterIdle, nothing]
      simp [Anchor.spelling, spell]
    rw [relativeTo?, nowhere]
    exact whole
  · have onlyName : ∀ other ∈ [name], IsName other := List.forall_mem_singleton.2 named
    rw [relativeTo?_of_segments nowhere steps shape onlyName afterIdle]
    simp [spell]

end

end BacklogTrace.Path
