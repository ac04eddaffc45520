/-!
Contract: cutting, splitting and trimming of finite sequences.

The sequences are the lines of a source file (lists of characters) and the
spellings of paths (lists of bytes), so every function here is generic in its
elements. Each one recurses on its list; where a caller relies on it, the lemma
beside it says how the pieces it returns make up the list it was given.

Owns: `splitWhere`, `splitAfter`, `cutFirst?`, `cutLast?`, `cutAt?`, `dropEndWhile`.

Does not own: what counts as a separator, which each caller decides.
-/

namespace BacklogTrace.Sequence

universe u

variable {α : Type u}

/-- The pieces between the elements that satisfy `separates`. There is always
one piece more than there are separators. -/
def splitWhere (separates : α → Bool) : List α → List (List α)
  | [] => [[]]
  | head :: tail =>
      if separates head then
        [] :: splitWhere separates tail
      else
        match splitWhere separates tail with
        | [] => [[head]]
        | piece :: pieces => (head :: piece) :: pieces

/-- The pieces between the occurrences of one element. -/
def splitOn [BEq α] (separator : α) (sequence : List α) : List (List α) :=
  splitWhere (· == separator) sequence

/-- An element separates nothing exactly where it does not stand. -/
theorem forall_beq_eq_false_iff [BEq α] [LawfulBEq α] {separator : α} {sequence : List α} :
    (∀ element ∈ sequence, (element == separator) = false) ↔ separator ∉ sequence := by
  constructor
  · intro plain member
    exact absurd (plain separator member) (by simp)
  · intro absent element member
    rw [beq_eq_false_iff_ne]
    intro same
    exact absent (same ▸ member)

theorem splitWhere_ne_nil (separates : α → Bool) (sequence : List α) :
    splitWhere separates sequence ≠ [] := by
  cases sequence with
  | nil => simp [splitWhere]
  | cons head tail =>
      simp only [splitWhere]
      split
      · simp
      · split <;> simp

theorem splitWhere_of_forall (separates : α → Bool) {sequence : List α}
    (plain : ∀ element ∈ sequence, separates element = false) :
    splitWhere separates sequence = [sequence] := by
  induction sequence with
  | nil => rfl
  | cons head tail inductionHypothesis =>
      have headPlain := plain head (by simp)
      have tailPlain := inductionHypothesis
        (fun element member => plain element (by simp [member]))
      simp [splitWhere, headPlain, tailPlain]

/-- Splitting stops at the first separator: the piece before it, then the
pieces of what follows. -/
theorem splitWhere_append_cons (separates : α → Bool) {before after : List α}
    {separator : α}
    (plain : ∀ element ∈ before, separates element = false)
    (hit : separates separator = true) :
    splitWhere separates (before ++ separator :: after) =
      before :: splitWhere separates after := by
  induction before with
  | nil => simp [splitWhere, hit]
  | cons head tail inductionHypothesis =>
      have headPlain := plain head (by simp)
      have tailSplit := inductionHypothesis
        (fun element member => plain element (by simp [member]))
      simp [splitWhere, headPlain, tailSplit]

theorem splitOn_of_not_mem [BEq α] [LawfulBEq α] {separator : α} {sequence : List α}
    (absent : separator ∉ sequence) : splitOn separator sequence = [sequence] :=
  splitWhere_of_forall _ (forall_beq_eq_false_iff.2 absent)

theorem splitOn_append_cons [BEq α] [LawfulBEq α] {separator : α} {before : List α}
    (absent : separator ∉ before) (after : List α) :
    splitOn separator (before ++ separator :: after) = before :: splitOn separator after :=
  splitWhere_append_cons _ (forall_beq_eq_false_iff.2 absent) (beq_self_eq_true separator)

theorem not_separates_of_mem_splitWhere (separates : α → Bool)
    (sequence : List α) :
    ∀ piece ∈ splitWhere separates sequence,
      ∀ element ∈ piece, separates element = false := by
  induction sequence with
  | nil => simp [splitWhere]
  | cons head tail inductionHypothesis =>
      simp only [splitWhere]
      split
      · intro piece member
        rcases List.mem_cons.1 member with rfl | member
        · simp
        · exact inductionHypothesis piece member
      · rename_i headPlain
        split
        · rename_i empty
          exact absurd empty (splitWhere_ne_nil separates tail)
        · rename_i first others equation
          rw [equation] at inductionHypothesis
          intro piece member element inside
          rcases List.mem_cons.1 member with rfl | member
          · rcases List.mem_cons.1 inside with rfl | inside
            · simpa using headPlain
            · exact inductionHypothesis first (by simp) element inside
          · exact inductionHypothesis piece (by simp [member]) element inside

/-- The pieces that each end in an element that satisfies `ends`; only the last
may end with the sequence, and is then not empty. -/
def splitAfter (ends : α → Bool) : List α → List (List α)
  | [] => []
  | head :: tail =>
      if ends head then
        [head] :: splitAfter ends tail
      else
        match splitAfter ends tail with
        | [] => [[head]]
        | piece :: pieces => (head :: piece) :: pieces

/-- The part before the first element that satisfies `separates`, that element,
and the part after it. -/
def cutFirst? (separates : α → Bool) : List α → Option (List α × α × List α)
  | [] => none
  | head :: tail =>
      if separates head then
        some ([], head, tail)
      else
        match cutFirst? separates tail with
        | none => none
        | some (before, separator, after) => some (head :: before, separator, after)

/-- The part before the last element that satisfies `separates`, that element,
and the part after it. -/
def cutLast? (separates : α → Bool) : List α → Option (List α × α × List α)
  | [] => none
  | head :: tail =>
      match cutLast? separates tail with
      | some (before, separator, after) => some (head :: before, separator, after)
      | none => if separates head then some ([], head, tail) else none

/-- A first cut is exactly a decomposition whose left part has no separator. -/
theorem cutFirst?_eq_some_iff (separates : α → Bool) {sequence before after : List α}
    {separator : α} :
    cutFirst? separates sequence = some (before, separator, after) ↔
      sequence = before ++ separator :: after ∧ separates separator = true ∧
        ∀ element ∈ before, separates element = false := by
  induction sequence generalizing before with
  | nil => simp [cutFirst?]
  | cons head tail inductionHypothesis =>
      simp only [cutFirst?]
      by_cases hit : separates head = true
      · rw [if_pos hit]
        constructor
        · intro equation
          cases equation
          simp [hit]
        · rintro ⟨shape, separatorHit, plain⟩
          cases before with
          | nil => simp_all
          | cons first others =>
              simp only [List.cons_append, List.cons.injEq] at shape
              have := plain first (by simp)
              simp_all
      · rw [if_neg hit]
        constructor
        · intro equation
          split at equation
          · simp at equation
          · rename_i left middle right cut
            cases equation
            obtain ⟨shape, separatorHit, plain⟩ := inductionHypothesis.1 cut
            refine ⟨by simp [shape], separatorHit, ?_⟩
            intro element member
            rcases List.mem_cons.1 member with rfl | member
            · simpa using hit
            · exact plain element member
        · rintro ⟨shape, separatorHit, plain⟩
          cases before with
          | nil =>
              simp only [List.nil_append, List.cons.injEq] at shape
              exact absurd (shape.1 ▸ separatorHit) hit
          | cons first others =>
              simp only [List.cons_append, List.cons.injEq] at shape
              have cut := inductionHypothesis.2
                ⟨shape.2, separatorHit,
                  fun element member => plain element (by simp [member])⟩
              simp [cut, shape.1]

theorem cutFirst?_eq_none_iff (separates : α → Bool) {sequence : List α} :
    cutFirst? separates sequence = none ↔
      ∀ element ∈ sequence, separates element = false := by
  induction sequence with
  | nil => simp [cutFirst?]
  | cons head tail inductionHypothesis =>
      simp only [cutFirst?]
      by_cases hit : separates head = true
      · simp [hit]
      · simp only [hit, Bool.false_eq_true, if_false, List.mem_cons, forall_eq_or_imp]
        rw [← inductionHypothesis]
        cases cutFirst? separates tail <;> simp_all

theorem cutLast?_eq_none_iff (separates : α → Bool) {sequence : List α} :
    cutLast? separates sequence = none ↔
      ∀ element ∈ sequence, separates element = false := by
  induction sequence with
  | nil => simp [cutLast?]
  | cons head tail inductionHypothesis =>
      simp only [cutLast?, List.mem_cons, forall_eq_or_imp]
      rw [← inductionHypothesis]
      cases cutLast? separates tail <;> simp

theorem cutLast?_eq_some_iff (separates : α → Bool) {sequence before after : List α}
    {separator : α} :
    cutLast? separates sequence = some (before, separator, after) ↔
      sequence = before ++ separator :: after ∧ separates separator = true ∧
        ∀ element ∈ after, separates element = false := by
  induction sequence generalizing before with
  | nil => simp [cutLast?]
  | cons head tail inductionHypothesis =>
      simp only [cutLast?]
      constructor
      · intro equation
        split at equation
        · rename_i left middle right cut
          cases equation
          obtain ⟨shape, separatorHit, plain⟩ := inductionHypothesis.1 cut
          exact ⟨by simp [shape], separatorHit, plain⟩
        · rename_i noCut
          split at equation
          · rename_i hit
            cases equation
            exact ⟨rfl, hit, (cutLast?_eq_none_iff separates).1 noCut⟩
          · simp at equation
      · rintro ⟨shape, separatorHit, plain⟩
        cases before with
        | nil =>
            simp only [List.nil_append, List.cons.injEq] at shape
            obtain ⟨rfl, rfl⟩ := shape
            simp [(cutLast?_eq_none_iff separates).2 plain, separatorHit]
        | cons first others =>
            simp only [List.cons_append, List.cons.injEq] at shape
            obtain ⟨rfl, shape⟩ := shape
            have cut := inductionHypothesis.2 ⟨shape, separatorHit, plain⟩
            simp [cut]

/-- The part before the leftmost occurrence of `pattern` and the part after
it. -/
def cutAt? [BEq α] (pattern : List α) : List α → Option (List α × List α)
  | [] => if pattern.isEmpty then some ([], []) else none
  | head :: tail =>
      match pattern.isPrefixOf? (head :: tail) with
      | some after => some ([], after)
      | none =>
          match cutAt? pattern tail with
          | none => none
          | some (before, after) => some (head :: before, after)

/-- Whether `pattern` occurs anywhere. -/
def occursIn [BEq α] (pattern sequence : List α) : Bool :=
  (cutAt? pattern sequence).isSome

/-- The sequence without the longest run at its end that satisfies `drops`. -/
def dropEndWhile (drops : α → Bool) (sequence : List α) : List α :=
  (sequence.reverse.dropWhile drops).reverse

/-- The sequence without such runs at either end. -/
def trimWhile (drops : α → Bool) (sequence : List α) : List α :=
  dropEndWhile drops (sequence.dropWhile drops)

theorem dropEndWhile_append_of_not (drops : α → Bool) (before : List α) {last : α}
    (stays : drops last = false) :
    dropEndWhile drops (before ++ [last]) = before ++ [last] := by
  simp [dropEndWhile, stays]

theorem dropEndWhile_append_of_forall (drops : α → Bool) (before : List α)
    {after : List α} (dropped : ∀ element ∈ after, drops element = true) :
    dropEndWhile drops (before ++ after) = dropEndWhile drops before := by
  have reversed : ∀ element ∈ after.reverse, drops element = true :=
    fun element member => dropped element (by simpa using member)
  simp only [dropEndWhile, List.reverse_append]
  rw [List.dropWhile_append_of_pos reversed]

end BacklogTrace.Sequence
