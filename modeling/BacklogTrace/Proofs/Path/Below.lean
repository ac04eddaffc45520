import BacklogTrace.Path.Relative
import BacklogTrace.Proofs.Sequence

/-!
Contract: paths below a root.

Names that are joined to a root one after the other take one step each, however
the root is spelled, and taken relative to the root the path is these names with
single slashes between them. So different names lead to different paths.

Owns: `Path.below`, `Path.stem`, `Path.IsAnchored`.

Does not own: which entries there are (`FileSystem`).
-/

namespace BacklogTrace.Path

/-! ## Names -/

namespace IsName

variable {name : Bytes}

theorem ne_nil (named : IsName name) : name ≠ [] := by
  rintro rfl
  exact absurd named.busy (by decide)

theorem componentOf_eq (named : IsName name) : componentOf name = .named name :=
  if_neg named.notUp

theorem not_isAbsolute (named : IsName name) : (Path.mk name).isAbsolute = false := by
  rw [isAbsolute, beq_eq_false_iff_ne]
  intro first
  exact named.noSlash (List.mem_of_head? first)

theorem getLast?_ne (named : IsName name) (before : Bytes) :
    (before ++ name).getLast? ≠ some slash := by
  intro last
  exact named.noSlash (Sequence.mem_of_getLast?_append last named.ne_nil)

end IsName

theorem componentsOf_append (segments others : List Bytes) :
    componentsOf (segments ++ others) = componentsOf segments ++ componentsOf others := by
  rw [componentsOf, List.filter_append, List.map_append]
  rfl

theorem componentsOf_of_idle {segments : List Bytes}
    (idle : ∀ segment ∈ segments, isIdle segment = true) : componentsOf segments = [] := by
  rw [componentsOf, List.filter_eq_nil_iff.2 (fun segment member => by simp [idle segment member])]
  rfl

theorem componentsOf_of_names {names : List Bytes} (named : ∀ name ∈ names, IsName name) :
    componentsOf names = names.map .named := by
  rw [componentsOf, List.filter_eq_self.2 (fun name member => by simp [(named name member).busy])]
  exact List.map_congr_left fun name member => (named name member).componentOf_eq

/-! ## One name below a path -/

/-- A slash after the beginning of a path leaves where the path begins as it
is. -/
theorem anchored_append {spelling : Bytes} (nonempty : spelling ≠ []) (rest : Bytes) :
    anchored (spelling ++ slash :: rest) =
      ((anchored spelling).1, (anchored spelling).2 ++ slash :: rest) := by
  cases spelling with
  | nil => exact absurd rfl nonempty
  | cons first others =>
      simp only [List.cons_append, anchored]
      by_cases atTop : first = slash
      · simp [atTop]
      · simp only [atTop, if_false]
        cases others with
        | nil => by_cases atDot : first = dot <;> simp [atDot]
        | cons second others =>
            by_cases atHere : first = dot ∧ second = slash
            · simp [atHere]
            · simp [atHere]

/-- The segments of a path without an idle one after a slash that ends it. -/
def stem (path : Path) : List Bytes :=
  if path.spelling.getLast? = some slash then path.segments.dropLast else path.segments

theorem anchor_of_spelling {front : Bytes} (nonempty : front ≠ []) (rest : Bytes) :
    (Path.mk (front ++ slash :: rest)).anchor = (Path.mk front).anchor := by
  change (anchored (front ++ slash :: rest)).1 = _
  rw [anchored_append nonempty]
  rfl

theorem segments_of_spelling {front : Bytes} (nonempty : front ≠ []) (rest : Bytes) :
    (Path.mk (front ++ slash :: rest)).segments =
      (Path.mk front).segments ++ Sequence.splitOn slash rest := by
  change Sequence.splitOn slash (anchored (front ++ slash :: rest)).2 = _
  rw [anchored_append nonempty]
  exact Sequence.splitWhere_append_separator (· == slash) (beq_self_eq_true slash) _ _

theorem stem_of_not_slash {path : Path} (last : path.spelling.getLast? ≠ some slash) :
    path.stem = path.segments :=
  if_neg last

/-- The stem of a path that a slash ends is that of its beginning, unless the path
is the top. -/
theorem stem_of_slash {front : Bytes} (nonempty : front ≠ []) :
    (Path.mk (front ++ [slash])).stem = (Path.mk front).segments := by
  have last : (Path.mk (front ++ [slash])).spelling.getLast? = some slash := List.getLast?_concat
  rw [stem, if_pos last, segments_of_spelling nonempty]
  exact List.dropLast_concat

theorem exists_idle_of_stem (path : Path) :
    ∃ idle, path.segments = path.stem ++ idle ∧ ∀ segment ∈ idle, isIdle segment = true := by
  obtain ⟨spelling⟩ := path
  by_cases last : spelling.getLast? = some slash
  · obtain ⟨front, rfl⟩ := List.getLast?_eq_some_iff.1 last
    refine ⟨[[]], ?_, List.forall_mem_singleton.2 rfl⟩
    cases front with
    | nil => rfl
    | cons first others =>
        rw [segments_of_spelling (List.cons_ne_nil _ _), stem_of_slash (List.cons_ne_nil _ _)]
        rfl
  · exact ⟨[], by rw [stem_of_not_slash last, List.append_nil], List.forall_mem_nil _⟩

theorem components_eq_stem (path : Path) :
    path.components = path.anchor.component?.toList ++ componentsOf path.stem := by
  obtain ⟨idle, ends, allIdle⟩ := path.exists_idle_of_stem
  rw [components, ends, componentsOf_append, componentsOf_of_idle allIdle, List.append_nil]

section

variable {path : Path} {name : Bytes}

theorem join_of_not_slash (nonempty : path.spelling ≠ []) (named : IsName name)
    (last : path.spelling.getLast? ≠ some slash) :
    path.join ⟨name⟩ = ⟨path.spelling ++ slash :: name⟩ := by
  simp [join, named.not_isAbsolute, nonempty, last]

theorem join_of_slash (named : IsName name) (front : Bytes) :
    (Path.mk (front ++ [slash])).join ⟨name⟩ = ⟨front ++ slash :: name⟩ := by
  simp [join, named.not_isAbsolute]

theorem getLast?_spelling_join (nonempty : path.spelling ≠ []) (named : IsName name) :
    (path.join ⟨name⟩).spelling.getLast? ≠ some slash := by
  obtain ⟨spelling⟩ := path
  by_cases last : spelling.getLast? = some slash
  · obtain ⟨front, rfl⟩ := List.getLast?_eq_some_iff.1 last
    rw [join_of_slash named, List.append_cons]
    exact named.getLast?_ne _
  · rw [join_of_not_slash nonempty named last, List.append_cons]
    exact named.getLast?_ne _

theorem spelling_join_ne_nil (nonempty : path.spelling ≠ []) (named : IsName name) :
    (path.join ⟨name⟩).spelling ≠ [] := by
  obtain ⟨spelling⟩ := path
  by_cases last : spelling.getLast? = some slash
  · obtain ⟨front, rfl⟩ := List.getLast?_eq_some_iff.1 last
    rw [join_of_slash named]
    simp
  · rw [join_of_not_slash nonempty named last]
    simp

/-- A name that is joined to a path takes one segment after those of the path. -/
theorem anchor_and_stem_join (nonempty : path.spelling ≠ []) (named : IsName name) :
    (path.join ⟨name⟩).anchor = path.anchor ∧ (path.join ⟨name⟩).stem = path.stem ++ [name] := by
  have piece : Sequence.splitOn slash name = [name] := Sequence.splitOn_of_not_mem named.noSlash
  rw [stem_of_not_slash (getLast?_spelling_join nonempty named)]
  obtain ⟨spelling⟩ := path
  by_cases last : spelling.getLast? = some slash
  · obtain ⟨front, rfl⟩ := List.getLast?_eq_some_iff.1 last
    rw [join_of_slash named]
    cases front with
    | nil => exact ⟨rfl, piece⟩
    | cons first others =>
        have front : first :: others ≠ [] := List.cons_ne_nil _ _
        rw [anchor_of_spelling front, anchor_of_spelling front, segments_of_spelling front,
          stem_of_slash front, piece]
        exact ⟨rfl, rfl⟩
  · rw [join_of_not_slash nonempty named last, stem_of_not_slash last]
    exact ⟨anchor_of_spelling nonempty name, by rw [segments_of_spelling nonempty, piece]⟩

end

/-! ## Names below a root -/

/-- The path to which names lead, one below the other, from a root. -/
def below (root : Path) (names : List Bytes) : Path :=
  names.foldl (fun path name => path.join ⟨name⟩) root

@[simp] theorem below_nil (root : Path) : root.below [] = root := rfl

@[simp] theorem below_cons (root : Path) (name : Bytes) (names : List Bytes) :
    root.below (name :: names) = (root.join ⟨name⟩).below names := rfl

section

variable {root : Path} {names others : List Bytes}

theorem anchor_and_stem_below (nonempty : root.spelling ≠ [])
    (named : ∀ name ∈ names, IsName name) :
    (root.below names).anchor = root.anchor ∧ (root.below names).stem = root.stem ++ names := by
  induction names generalizing root with
  | nil => exact ⟨rfl, (List.append_nil _).symm⟩
  | cons name names inductionHypothesis =>
      obtain ⟨first, others⟩ := List.forall_mem_cons.1 named
      obtain ⟨anchor, stem⟩ := anchor_and_stem_join nonempty first
      obtain ⟨anchorBelow, stemBelow⟩ :=
        inductionHypothesis (spelling_join_ne_nil nonempty first) others
      refine ⟨anchorBelow.trans anchor, ?_⟩
      rw [below_cons, stemBelow, stem, List.append_assoc]
      rfl

/-- Names below a root take one step each after those of the root. -/
theorem components_below (nonempty : root.spelling ≠ [])
    (named : ∀ name ∈ names, IsName name) :
    (root.below names).components = root.components ++ names.map .named := by
  obtain ⟨anchor, stem⟩ := anchor_and_stem_below nonempty named
  rw [components_eq_stem, anchor, stem, componentsOf_append, componentsOf_of_names named,
    ← List.append_assoc, ← components_eq_stem]

theorem names_eq_of_components_eq (nonempty : root.spelling ≠ [])
    (named : ∀ name ∈ names, IsName name) (othersNamed : ∀ name ∈ others, IsName name)
    (same : (root.below names).components = (root.below others).components) :
    names = others := by
  rw [components_below nonempty named, components_below nonempty othersNamed] at same
  exact List.map_injective_iff.2 (fun _ _ => Component.named.inj) (List.append_cancel_left same)

/-! ## Relative to the root -/

/-- The first segment of what does not begin with a slash goes on up to a slash or
to the end. -/
theorem exists_first_segment {first : UInt8} (notSlash : first ≠ slash) (others : Bytes) :
    ∃ segment later, Sequence.splitOn slash (first :: others) = (first :: segment) :: later ∧
      (segment = [] → others.isEmpty = true ∨ others.head? = some slash) := by
  have plain : (first == slash) = false := beq_eq_false_iff_ne.2 notSlash
  cases others with
  | nil => exact ⟨[], [], by simp [Sequence.splitOn, Sequence.splitWhere, plain], fun _ => .inl rfl⟩
  | cons second others =>
      cases rest : Sequence.splitWhere (· == slash) (second :: others) with
      | nil => exact absurd rest (Sequence.splitWhere_ne_nil _ _)
      | cons segment later =>
          refine ⟨segment, later, ?_, ?_⟩
          · rw [Sequence.splitOn, Sequence.splitWhere, if_neg (by simpa using notSlash), rest]
          · rintro rfl
            refine .inr (congrArg some (Classical.byContradiction fun other => ?_))
            rw [Sequence.splitWhere, if_neg (by simpa using other)] at rest
            split at rest <;> simp at rest

/-- Where a spelling begins, one constructor for each way to begin. -/
inductive IsAnchored : Bytes → Anchor × Bytes → Prop
  | nothing : IsAnchored [] (.relative, [])
  | top (rest : Bytes) : IsAnchored (slash :: rest) (.top, rest)
  | dot : IsAnchored [dot] (.here, [])
  | here (rest : Bytes) : IsAnchored (Path.dot :: slash :: rest) (.here, slash :: rest)
  /-- With a segment that is not idle. -/
  | busy {first : UInt8} {others segment : Bytes} {later : List Bytes}
      (split : Sequence.splitOn slash (first :: others) = (first :: segment) :: later)
      (busy : isIdle (first :: segment) = false) :
      IsAnchored (first :: others) (.relative, first :: others)

theorem isAnchored_anchored (spelling : Bytes) : IsAnchored spelling (anchored spelling) := by
  cases spelling with
  | nil => exact .nothing
  | cons first others =>
      by_cases atTop : first = slash
      · have top : anchored (first :: others) = (.top, others) := if_pos atTop
        rw [top, atTop]
        exact .top others
      · by_cases atHere : first = dot ∧ (others.isEmpty = true ∨ others.head? = some slash)
        · have here : anchored (first :: others) = (.here, others) :=
            (if_neg atTop).trans (if_pos atHere)
          rw [here, atHere.1]
          cases others with
          | nil => exact .dot
          | cons second others =>
              have slashed : second = slash := by simpa using atHere.2
              rw [slashed]
              exact .here others
        · have relative : anchored (first :: others) = (.relative, first :: others) :=
            (if_neg atTop).trans (if_neg atHere)
          obtain ⟨segment, later, split, short⟩ := exists_first_segment atTop others
          rw [relative]
          apply IsAnchored.busy split
          rw [isIdle, List.isEmpty_cons, Bool.false_or, beq_eq_false_iff_ne]
          intro same
          obtain ⟨atDot, nothing⟩ := List.cons.inj same
          exact atHere ⟨atDot, short nothing⟩

/-- A path that is spelled takes a step. -/
theorem components_ne_nil (nonempty : root.spelling ≠ []) : root.components ≠ [] := by
  obtain ⟨spelling⟩ := root
  rw [components, anchor, segments]
  dsimp only at nonempty ⊢
  generalize anchored spelling = parts, isAnchored_anchored spelling = begins
  cases begins with
  | nothing => exact absurd rfl nonempty
  | top rest => exact List.cons_ne_nil _ _
  | dot => exact List.cons_ne_nil _ _
  | here rest => exact List.cons_ne_nil _ _
  | busy split busy => simp [Anchor.component?, split, componentsOf, busy]

theorem takeComponents_append (segments rest : List Bytes) :
    ∃ idle, takeComponents (segments ++ rest) (componentsOf segments) = some (idle ++ rest) ∧
      ∀ segment ∈ idle, isIdle segment = true := by
  induction segments with
  | nil => exact ⟨[], by cases rest <;> rfl, List.forall_mem_nil _⟩
  | cons segment segments inductionHypothesis =>
      obtain ⟨idle, taken, allIdle⟩ := inductionHypothesis
      by_cases still : isIdle segment = true
      · have skipped : componentsOf (segment :: segments) = componentsOf segments := by
          simp [componentsOf, still]
        rw [skipped]
        cases steps : componentsOf segments with
        | nil =>
            refine ⟨segment :: segments, by rfl, List.forall_mem_cons.2 ⟨still, ?_⟩⟩
            intro other member
            have nothing := List.map_eq_nil_iff.1 steps
            simpa using List.filter_eq_nil_iff.1 nothing other member
        | cons step others =>
            rw [steps] at taken
            refine ⟨idle, ?_, allIdle⟩
            rw [List.cons_append, takeComponents, if_pos still, taken]
      · have steps : componentsOf (segment :: segments) =
            componentOf segment :: componentsOf segments := by
          simp [componentsOf, still]
        refine ⟨idle, ?_, allIdle⟩
        rw [steps, List.cons_append, takeComponents, if_neg still, if_pos rfl, taken]

/-- The rest of a path is the names in it, without what is idle around them. -/
theorem restOf_append {before after : List Bytes}
    (beforeIdle : ∀ segment ∈ before, isIdle segment = true)
    (named : ∀ name ∈ names, IsName name)
    (afterIdle : ∀ segment ∈ after, isIdle segment = true) :
    restOf (before ++ (names ++ after)) = ⟨spell names⟩ := by
  have dropped : dropIdleEnd (names ++ after) = dropIdleEnd names :=
    Sequence.dropEndWhile_append_of_forall isIdle names afterIdle
  rw [restOf, List.dropWhile_append_of_pos beforeIdle]
  cases names using List.reverseRecOn with
  | nil => rw [List.nil_append, List.dropWhile_eq_nil_iff.2 afterIdle]; rfl
  | append_singleton earlier last =>
      have stays : dropIdleEnd (earlier ++ [last]) = earlier ++ [last] :=
        Sequence.dropEndWhile_append_of_not isIdle earlier (named last (by simp)).busy
      have begins : (earlier ++ [last] ++ after).dropWhile isIdle = earlier ++ [last] ++ after := by
        cases earlier with
        | nil => simp [(named last (by simp)).busy]
        | cons first earlier => simp [(named first (by simp)).busy]
      rw [begins, dropped, stays]

/-- What remains of a path after the steps of a base are the names that come next. -/
theorem relativeTo?_of_segments {base path : Path} {front after : List Bytes}
    (nonempty : base.components ≠ [])
    (steps : base.components = path.anchor.component?.toList ++ componentsOf front)
    (shape : path.segments = front ++ (names ++ after)) (named : ∀ name ∈ names, IsName name)
    (afterIdle : ∀ segment ∈ after, isIdle segment = true) :
    relativeTo? base path = some ⟨spell names⟩ := by
  obtain ⟨before, taken, beforeIdle⟩ := takeComponents_append front (names ++ after)
  have rest : restOf (before ++ (names ++ after)) = ⟨spell names⟩ :=
    restOf_append beforeIdle named afterIdle
  rw [← shape] at taken
  rw [steps] at nonempty
  rw [relativeTo?, steps]
  cases begins : path.anchor.component? with
  | none =>
      rw [begins] at nonempty
      cases remaining : componentsOf front with
      | nil => exact absurd remaining nonempty
      | cons first others =>
          rw [remaining] at taken
          simp [taken, rest]
  | some component => simp [taken, rest]

/-- Relative to a root, what is below it are the names that lead to it. -/
theorem relativeTo_below (nonempty : root.spelling ≠ [])
    (named : ∀ name ∈ names, IsName name) :
    relativeTo root (root.below names) = ⟨spell names⟩ := by
  obtain ⟨anchor, stem⟩ := anchor_and_stem_below nonempty named
  obtain ⟨after, ends, afterIdle⟩ := (root.below names).exists_idle_of_stem
  have steps : root.components =
      (root.below names).anchor.component?.toList ++ componentsOf root.stem := by
    rw [anchor, ← components_eq_stem]
  have shape : (root.below names).segments = root.stem ++ (names ++ after) := by
    rw [ends, stem, List.append_assoc]
  have below : relativeTo? root (root.below names) = some ⟨spell names⟩ :=
    relativeTo?_of_segments (components_ne_nil nonempty) steps shape named afterIdle
  rw [relativeTo, below]
  rfl

end

end BacklogTrace.Path
