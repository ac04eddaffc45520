import Mathlib.Data.List.Basic
import Mathlib.Data.List.DropRight
import BacklogTrace.Sequence

/-!
Contract: laws of cuts and searches in finite sequences.

Owns: what is dropped from an end, last cuts of a longer sequence, induction over
the pieces between separators, the pieces by what they are (`IsSplit`), and the
search for a pattern as the relation "is an infix of".

Does not own: which elements separate or are dropped.
-/

namespace BacklogTrace.Sequence

universe u

variable {α : Type u}

/-- Where no element separates, each one does not: the form in which a literal is
decided. -/
theorem forall_of_any_eq_false {separates : α → Bool} {sequence : List α}
    (clear : sequence.any separates = false) :
    ∀ element ∈ sequence, separates element = false :=
  fun element member => Bool.eq_false_iff.2 (List.any_eq_false.1 clear element member)

theorem exists_append_of_dropEndWhile (drops : α → Bool) (sequence : List α) :
    ∃ ending, sequence = dropEndWhile drops sequence ++ ending ∧
      ∀ element ∈ ending, drops element = true := by
  refine ⟨(sequence.reverse.takeWhile drops).reverse, ?_, ?_⟩
  · rw [dropEndWhile, ← List.reverse_append, List.takeWhile_append_dropWhile, List.reverse_reverse]
  · intro element member
    rw [List.mem_reverse] at member
    exact List.all_eq_true.1 List.all_takeWhile element member

/-- What is left at an end is not dropped. -/
theorem eq_false_of_getLast?_dropEndWhile {drops : α → Bool} {sequence : List α} {last : α}
    (ends : (dropEndWhile drops sequence).getLast? = some last) : drops last = false := by
  rw [dropEndWhile, List.getLast?_reverse] at ends
  have stays := List.head?_dropWhile_not drops sequence.reverse
  rw [ends] at stays
  exact stays

theorem dropEndWhile_dropEndWhile (drops : α → Bool) (sequence : List α) :
    dropEndWhile drops (dropEndWhile drops sequence) = dropEndWhile drops sequence :=
  List.rdropWhile_idempotent drops sequence

theorem mem_of_mem_dropEndWhile {drops : α → Bool} {sequence : List α} {element : α}
    (member : element ∈ dropEndWhile drops sequence) : element ∈ sequence :=
  List.IsPrefix.mem member (List.rdropWhile_prefix drops sequence)

/-- What is dropped from an end does not reach beyond an element that stays. -/
theorem dropEndWhile_append_of_exists (drops : α → Bool) (before : List α) {after : List α}
    (stays : ∃ element ∈ after, drops element = false) :
    dropEndWhile drops (before ++ after) = before ++ dropEndWhile drops after := by
  have left : (after.reverse.dropWhile drops).isEmpty = false := by
    obtain ⟨element, member, stays⟩ := stays
    rw [List.isEmpty_eq_false_iff]
    intro none
    have dropped := List.dropWhile_eq_nil_iff.1 none element (List.mem_reverse.2 member)
    rw [stays] at dropped
    exact absurd dropped (by decide)
  unfold dropEndWhile
  rw [List.reverse_append, List.dropWhile_append, left, if_neg Bool.false_ne_true,
    List.reverse_append, List.reverse_reverse]

/-- The first cut is where the separator stands first. -/
theorem cutFirst?_append_cons [BEq α] [LawfulBEq α] {separator : α} {before : List α}
    (absent : separator ∉ before) (after : List α) :
    cutFirst? (· == separator) (before ++ separator :: after) = some (before, separator, after) :=
  (cutFirst?_eq_some_iff _).2
    ⟨rfl, beq_self_eq_true separator, forall_beq_eq_false_iff.2 absent⟩

/-- The first cut does not look at a front without separators. -/
theorem cutFirst?_prepend_of_forall (separates : α → Bool) {front : List α}
    (plain : ∀ element ∈ front, separates element = false) (sequence : List α) :
    cutFirst? separates (front ++ sequence) =
      (cutFirst? separates sequence).map fun cut => (front ++ cut.1, cut.2) := by
  induction front with
  | nil => simp
  | cons head tail inductionHypothesis =>
      have headPlain := plain head (by simp)
      have tailCut := inductionHypothesis fun element member => plain element (by simp [member])
      simp only [List.cons_append, cutFirst?, headPlain, tailCut]
      cases cutFirst? separates sequence <;> simp

/-- Nor does the last cut. -/
theorem cutLast?_prepend_of_forall (separates : α → Bool) {front : List α}
    (plain : ∀ element ∈ front, separates element = false) (sequence : List α) :
    cutLast? separates (front ++ sequence) =
      (cutLast? separates sequence).map fun cut => (front ++ cut.1, cut.2) := by
  induction front with
  | nil => simp
  | cons head tail inductionHypothesis =>
      have headPlain := plain head (by simp)
      have tailCut := inductionHypothesis fun element member => plain element (by simp [member])
      simp only [List.cons_append, cutLast?, headPlain, tailCut]
      cases cutLast? separates sequence <;> simp

/-- The last cut does not look at an end without separators. -/
theorem cutLast?_append_of_forall (separates : α → Bool) (sequence : List α) {ending : List α}
    (plain : ∀ element ∈ ending, separates element = false) :
    cutLast? separates (sequence ++ ending) =
      (cutLast? separates sequence).map fun cut => (cut.1, cut.2.1, cut.2.2 ++ ending) := by
  cases cut : cutLast? separates sequence with
  | none =>
      have none := (cutLast?_eq_none_iff separates).1 cut
      rw [Option.map_none, cutLast?_eq_none_iff]
      intro element member
      rcases List.mem_append.1 member with inside | last
      · exact none element inside
      · exact plain element last
  | some parts =>
      obtain ⟨before, separator, after⟩ := parts
      obtain ⟨shape, hit, clear⟩ := (cutLast?_eq_some_iff separates).1 cut
      rw [Option.map_some, cutLast?_eq_some_iff]
      refine ⟨by rw [shape]; simp, hit, fun element member => ?_⟩
      rcases List.mem_append.1 member with inside | last
      · exact clear element inside
      · exact plain element last

/-- What stands before the first separator, and what after it, is determined by the
whole. -/
theorem eq_of_first_separator [BEq α] [LawfulBEq α] {separator : α}
    {before otherBefore after otherAfter : List α} (clear : separator ∉ before)
    (otherClear : separator ∉ otherBefore)
    (same : before ++ separator :: after = otherBefore ++ separator :: otherAfter) :
    before = otherBefore ∧ after = otherAfter := by
  have cut := cutFirst?_append_cons clear after
  rw [same, cutFirst?_append_cons otherClear otherAfter] at cut
  obtain ⟨sameBefore, rest⟩ := Prod.mk.inj (Option.some.inj cut)
  exact ⟨sameBefore.symm, (Prod.mk.inj rest).2.symm⟩

/-- What follows the last separator is determined by the whole. -/
theorem eq_of_last_separator (separates : α → Bool)
    {sequence before otherBefore after otherAfter : List α} {separator otherSeparator : α}
    (shape : sequence = before ++ separator :: after) (hit : separates separator = true)
    (plain : ∀ element ∈ after, separates element = false)
    (otherShape : sequence = otherBefore ++ otherSeparator :: otherAfter)
    (otherHit : separates otherSeparator = true)
    (otherPlain : ∀ element ∈ otherAfter, separates element = false) : after = otherAfter := by
  have cut := (cutLast?_eq_some_iff separates).2 ⟨shape, hit, plain⟩
  have otherCut := (cutLast?_eq_some_iff separates).2 ⟨otherShape, otherHit, otherPlain⟩
  rw [cut] at otherCut
  exact (Prod.mk.inj (Prod.mk.inj (Option.some.inj otherCut)).2).2

/-! ## Pieces between separators -/

/-- Induction over the pieces of a sequence: the last has no separator after it. -/
theorem pieceInduction {motive : List α → Prop} (separates : α → Bool)
    (last : ∀ piece, (∀ element ∈ piece, separates element = false) → motive piece)
    (cut : ∀ piece separator rest, (∀ element ∈ piece, separates element = false) →
      separates separator = true → motive rest → motive (piece ++ separator :: rest))
    (sequence : List α) : motive sequence := by
  -- generalised over the part of the first piece that has been read
  suffices whole : ∀ begun, (∀ element ∈ begun, separates element = false) →
      motive (begun ++ sequence) by
    exact whole [] (by simp)
  induction sequence with
  | nil =>
      intro begun plain
      rw [List.append_nil]
      exact last begun plain
  | cons head tail inductionHypothesis =>
      intro begun plain
      cases hit : separates head with
      | true => exact cut begun head tail plain hit (inductionHypothesis [] (by simp))
      | false =>
          rw [List.append_cons]
          apply inductionHypothesis
          intro element member
          rcases List.mem_append.1 member with inside | here
          · exact plain element inside
          · rw [List.mem_singleton.1 here]
            exact hit

theorem splitWhere_append_separator (separates : α → Bool) {separator : α}
    (hit : separates separator = true) (before after : List α) :
    splitWhere separates (before ++ separator :: after) =
      splitWhere separates before ++ splitWhere separates after := by
  induction before using pieceInduction separates with
  | last piece plain =>
      rw [splitWhere_append_cons separates plain hit, splitWhere_of_forall separates plain]
      rfl
  | cut piece first rest plain firstHit inductionHypothesis =>
      rw [List.append_assoc, List.cons_append, splitWhere_append_cons separates plain firstHit,
        splitWhere_append_cons separates plain firstHit, inductionHypothesis]
      rfl

/-- The pieces of a sequence between the occurrences of an element. -/
structure IsSplit (separator : α) (sequence : List α) (pieces : List (List α)) : Prop where
  nonempty : pieces ≠ []
  joined : [separator].intercalate pieces = sequence
  plain : ∀ piece ∈ pieces, separator ∉ piece

theorem intercalate_splitOn [BEq α] [LawfulBEq α] (separator : α) (sequence : List α) :
    [separator].intercalate (splitOn separator sequence) = sequence := by
  induction sequence using pieceInduction (· == separator) with
  | last piece plain =>
      rw [splitOn, splitWhere_of_forall _ plain, List.intercalate_singleton]
  | cut piece first rest plain hit inductionHypothesis =>
      rw [splitOn, splitWhere_append_cons _ plain hit]
      obtain ⟨next, others, shape⟩ :=
        List.exists_cons_of_ne_nil (splitWhere_ne_nil (· == separator) rest)
      rw [splitOn, shape] at inductionHypothesis
      rw [shape, List.intercalate_cons_cons, inductionHypothesis, eq_of_beq hit, List.append_assoc]
      rfl

theorem splitOn_intercalate [BEq α] [LawfulBEq α] {separator : α} {pieces : List (List α)}
    (nonempty : pieces ≠ []) (plain : ∀ piece ∈ pieces, separator ∉ piece) :
    splitOn separator ([separator].intercalate pieces) = pieces := by
  induction pieces with
  | nil => exact absurd rfl nonempty
  | cons head tail inductionHypothesis =>
      rw [List.forall_mem_cons] at plain
      cases tail with
      | nil => rw [List.intercalate_singleton, splitOn_of_not_mem plain.1]
      | cons next others =>
          rw [List.intercalate_cons_cons, List.append_assoc, List.singleton_append,
            splitOn_append_cons plain.1, inductionHypothesis (List.cons_ne_nil _ _) plain.2]

theorem isInfix_intercalate {separator : List α} {pieces : List (List α)} {piece : List α}
    (member : piece ∈ pieces) : piece <:+: separator.intercalate pieces := by
  induction pieces with
  | nil => exact absurd member List.not_mem_nil
  | cons head tail inductionHypothesis =>
      cases tail with
      | nil => simp [List.mem_singleton.1 member, List.intercalate_singleton]
      | cons next others =>
          rw [List.intercalate_cons_cons]
          rcases List.mem_cons.1 member with rfl | later
          · rw [List.append_assoc]
            exact (List.prefix_append _ _).isInfix
          · exact List.infix_append_of_infix_right (inductionHypothesis later)

theorem isSplit_iff [BEq α] [LawfulBEq α] {separator : α} {sequence : List α}
    {pieces : List (List α)} :
    IsSplit separator sequence pieces ↔ pieces = splitOn separator sequence := by
  constructor
  · rintro ⟨nonempty, rfl, plain⟩
    exact (splitOn_intercalate nonempty plain).symm
  · rintro rfl
    exact
      { nonempty := splitWhere_ne_nil _ _
        joined := intercalate_splitOn separator sequence
        plain := fun piece member =>
          forall_beq_eq_false_iff.1 (not_separates_of_mem_splitWhere _ _ piece member) }

theorem splitAfter_of_forall (ends : α → Bool) {sequence : List α}
    (plain : ∀ element ∈ sequence, ends element = false) :
    splitAfter ends sequence = if sequence.isEmpty then [] else [sequence] := by
  induction sequence with
  | nil => rfl
  | cons head tail inductionHypothesis =>
      have headPlain := plain head (by simp)
      have tailPlain := inductionHypothesis
        (fun element member => plain element (by simp [member]))
      simp only [splitAfter, headPlain, tailPlain]
      cases tail <;> simp

/-- Splitting stops after the first end: the piece with it, then the pieces of
what follows. -/
theorem splitAfter_append_cons (ends : α → Bool) {before after : List α} {last : α}
    (plain : ∀ element ∈ before, ends element = false) (hit : ends last = true) :
    splitAfter ends (before ++ last :: after) =
      (before ++ [last]) :: splitAfter ends after := by
  induction before with
  | nil => simp [splitAfter, hit]
  | cons head tail inductionHypothesis =>
      have headPlain := plain head (by simp)
      have tailSplit := inductionHypothesis
        (fun element member => plain element (by simp [member]))
      simp [splitAfter, headPlain, tailSplit]

/-! ## Searching a pattern -/

/-- A pattern is found exactly where it is an infix. -/
theorem occursIn_iff_isInfix [BEq α] [LawfulBEq α] (pattern sequence : List α) :
    occursIn pattern sequence = true ↔ pattern <:+: sequence := by
  unfold occursIn
  induction sequence with
  | nil => cases pattern <;> simp [cutAt?]
  | cons head tail inductionHypothesis =>
      rw [List.infix_cons_iff, ← inductionHypothesis, cutAt?]
      cases first : pattern.isPrefixOf? (head :: tail) with
      | some after =>
          have here := List.isPrefixOf?_eq_some_iff_append_eq.1 first
          simp only [Option.isSome_some, true_iff]
          exact Or.inl ⟨after, here⟩
      | none =>
          have notHere : ¬ pattern <+: head :: tail := by
            rintro ⟨after, here⟩
            rw [List.isPrefixOf?_eq_some_iff_append_eq.2 here] at first
            exact absurd first (by simp)
          cases cutAt? pattern tail <;> simp [notHere]

theorem occursIn_append [BEq α] [LawfulBEq α] (before pattern after : List α) :
    occursIn pattern (before ++ (pattern ++ after)) = true :=
  (occursIn_iff_isInfix _ _).2 ⟨before, after, by simp⟩

theorem occursIn_eq_false_of_count_lt [BEq α] [LawfulBEq α] {pattern sequence : List α}
    (element : α) (fewer : sequence.count element < pattern.count element) :
    occursIn pattern sequence = false := by
  rw [Bool.eq_false_iff]
  intro occurs
  have most := ((occursIn_iff_isInfix _ _).1 occurs).sublist.count_le element
  omega

/-! ## Patterns at the seam of two sequences -/

theorem mem_of_getLast?_append {before after : List α} {last : α}
    (ends : (before ++ after).getLast? = some last) (nonempty : after ≠ []) : last ∈ after := by
  rw [List.getLast?_append_of_ne_nil _ nonempty] at ends
  exact List.mem_of_getLast? ends

/-- A pattern does not begin in a sequence and end in an ending that lacks its last
element. -/
theorem prefix_append_iff_of_getLast? {pattern ending : List α} {last : α}
    (ends : pattern.getLast? = some last) (absent : last ∉ ending) (sequence : List α) :
    pattern <+: sequence ++ ending ↔ pattern <+: sequence := by
  constructor
  · rintro ⟨after, shape⟩
    rcases List.append_eq_append_iff.1 shape with ⟨others, inside, -⟩ | ⟨beyond, whole, outside⟩
    · exact ⟨others, inside.symm⟩
    · cases beyond with
      | nil =>
          rw [List.append_nil] at whole
          exact whole ▸ List.prefix_rfl
      | cons head tail =>
          rw [whole] at ends
          refine absurd ?_ absent
          rw [outside]
          exact List.mem_append_left after (mem_of_getLast?_append ends (List.cons_ne_nil _ _))
  · intro inside
    exact inside.trans (List.prefix_append sequence ending)

theorem isPrefixOf?_append_of_getLast? [BEq α] [LawfulBEq α] {pattern ending : List α} {last : α}
    (ends : pattern.getLast? = some last) (absent : last ∉ ending) (sequence : List α) :
    pattern.isPrefixOf? (sequence ++ ending) =
      (pattern.isPrefixOf? sequence).map (· ++ ending) := by
  cases inside : pattern.isPrefixOf? sequence with
  | some after =>
      have shape := List.isPrefixOf?_eq_some_iff_append_eq.1 inside
      rw [Option.map_some, List.isPrefixOf?_eq_some_iff_append_eq, ← shape, List.append_assoc]
  | none =>
      rw [Option.map_none, Option.eq_none_iff_forall_ne_some]
      intro after found
      have shape := List.isPrefixOf?_eq_some_iff_append_eq.1 found
      obtain ⟨others, begins⟩ :=
        (prefix_append_iff_of_getLast? ends absent sequence).1 ⟨after, shape⟩
      rw [List.isPrefixOf?_eq_some_iff_append_eq.2 begins] at inside
      exact absurd inside (by simp)

theorem occursIn_append_of_getLast? [BEq α] [LawfulBEq α] {pattern ending : List α} {last : α}
    (ends : pattern.getLast? = some last) (absent : last ∉ ending) (sequence : List α) :
    occursIn pattern (sequence ++ ending) = occursIn pattern sequence := by
  rw [Bool.eq_iff_iff, occursIn_iff_isInfix, occursIn_iff_isInfix]
  constructor
  · intro occurs
    rcases List.infix_append_iff.1 occurs with inside | outside | ⟨left, right, shape, isEnd, isStart⟩
    · exact inside
    · exact absurd (outside.mem (List.mem_of_getLast? ends)) absent
    · cases right with
      | nil =>
          rw [List.append_nil] at shape
          exact shape ▸ isEnd.isInfix
      | cons head tail =>
          rw [shape] at ends
          exact absurd (isStart.mem (mem_of_getLast?_append ends (List.cons_ne_nil _ _))) absent
  · intro inside
    exact List.infix_append_of_infix_left inside

/-- A pattern does not begin in a front that lacks its second element, unless the
sequence begins with all but its first. -/
theorem occursIn_prepend_of_not_prefix [BEq α] [LawfulBEq α] {first second : α}
    {others front sequence : List α} (absent : second ∉ front)
    (apart : ¬ second :: others <+: sequence) :
    occursIn (first :: second :: others) (front ++ sequence) =
      occursIn (first :: second :: others) sequence := by
  rw [Bool.eq_iff_iff, occursIn_iff_isInfix, occursIn_iff_isInfix]
  constructor
  · intro occurs
    rcases List.infix_append_iff.1 occurs with outside | inside | ⟨left, right, shape, isEnd, isStart⟩
    · exact absurd (outside.mem (by simp)) absent
    · exact inside
    · match left, shape with
      | [], shape =>
          rw [shape]
          exact isStart.isInfix
      | [_], shape =>
          rw [(List.cons.inj shape).2] at apart
          exact absurd isStart apart
      | _ :: next :: _, shape =>
          rw [(List.cons.inj (List.cons.inj shape).2).1] at absent
          exact absurd (isEnd.mem (by simp)) absent
  · intro inside
    exact List.infix_append_of_infix_right inside

end BacklogTrace.Sequence
