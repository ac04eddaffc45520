import Mathlib.Data.List.Forall2

/-!
Contract: going through a list with a function that may fail.

A traversal gives one result for each element, in order, or the failure of the
first element that has one; what stands behind that element does not matter.

Owns: when `List.mapM` over `Except` or `Option` gives a list and when it fails.

Does not own: which functions of the program are traversals; each is shown to be
one beside its other lemmas.
-/

namespace BacklogTrace.Traversal

universe u

variable {ε α β γ : Type u} {step : α → Except ε β}

theorem mapM_cons_of_ok {head : α} {result : β} (given : step head = .ok result)
    (tail : List α) :
    (head :: tail).mapM step = (tail.mapM step).map (result :: ·) := by
  rw [List.mapM_cons, given]
  cases tail.mapM step <;> rfl

theorem mapM_cons_of_error {head : α} {failure : ε} (failed : step head = .error failure)
    (tail : List α) : (head :: tail).mapM step = .error failure := by
  rw [List.mapM_cons, failed]
  rfl

/-- A traversal succeeds exactly with the results of its elements. -/
theorem mapM_eq_ok_iff {elements : List α} {results : List β} :
    elements.mapM step = .ok results ↔
      List.Forall₂ (fun element result => step element = .ok result) elements results := by
  induction elements generalizing results with
  | nil =>
      rw [List.forall₂_nil_left_iff]
      exact ⟨fun same => (Except.ok.inj same).symm, fun same => congrArg Except.ok same.symm⟩
  | cons head tail inductionHypothesis =>
      rw [List.forall₂_cons_left_iff]
      cases given : step head with
      | error failure =>
          rw [mapM_cons_of_error given]
          simp
      | ok result =>
          rw [mapM_cons_of_ok given]
          cases rest : tail.mapM step with
          | error failure =>
              simp only [rest, reduceCtorEq, false_iff] at inductionHypothesis
              simp [Except.map, inductionHypothesis]
          | ok others =>
              simp only [rest, Except.ok.injEq] at inductionHypothesis
              simp [Except.map, ← inductionHypothesis, eq_comm]

/-- A traversal fails exactly as the first element does that fails. -/
theorem mapM_eq_error_iff {elements : List α} {failure : ε} :
    elements.mapM step = .error failure ↔
      ∃ before element after, elements = before ++ element :: after ∧
        (∀ earlier ∈ before, ∃ result, step earlier = .ok result) ∧
          step element = .error failure := by
  induction elements with
  | nil =>
      constructor
      · intro same
        exact absurd same (by simp [pure, Except.pure])
      · rintro ⟨before, element, after, shape, -⟩
        exact absurd shape (by simp)
  | cons head tail inductionHypothesis =>
      cases given : step head with
      | error first =>
          rw [mapM_cons_of_error given]
          constructor
          · rintro ⟨⟩
            exact ⟨[], head, tail, rfl, List.forall_mem_nil _, given⟩
          · rintro ⟨before, element, after, shape, passed, failed⟩
            cases before with
            | nil =>
                obtain ⟨rfl, -⟩ := List.cons.inj shape
                exact congrArg Except.error (Except.error.inj (given.symm.trans failed))
            | cons earlier others =>
                obtain ⟨rfl, -⟩ := List.cons.inj shape
                obtain ⟨result, passes⟩ := passed head List.mem_cons_self
                exact absurd (given.symm.trans passes) (by simp)
      | ok result =>
          have goesOn : (head :: tail).mapM step = .error failure ↔
              tail.mapM step = .error failure := by
            rw [mapM_cons_of_ok given]
            cases tail.mapM step <;> simp [Except.map]
          rw [goesOn, inductionHypothesis]
          constructor
          · rintro ⟨before, element, after, rfl, passed, failed⟩
            exact ⟨head :: before, element, after, rfl,
              List.forall_mem_cons.2 ⟨⟨result, given⟩, passed⟩, failed⟩
          · rintro ⟨before, element, after, shape, passed, failed⟩
            cases before with
            | nil =>
                obtain ⟨rfl, -⟩ := List.cons.inj shape
                exact absurd (given.symm.trans failed) (by simp)
            | cons earlier others =>
                obtain ⟨-, shape⟩ := List.cons.inj shape
                exact ⟨others, element, after, shape, (List.forall_mem_cons.1 passed).2, failed⟩

theorem exists_of_mem {related : α → β → Prop} {elements : List α} {results : List β}
    (paired : List.Forall₂ related elements results) :
    ∀ element ∈ elements, ∃ result ∈ results, related element result := by
  induction paired with
  | nil => exact List.forall_mem_nil _
  | @cons head result tail others first _ inductionHypothesis =>
      refine List.forall_mem_cons.2 ⟨⟨result, List.mem_cons_self, first⟩, fun element member => ?_⟩
      obtain ⟨other, among, second⟩ := inductionHypothesis element member
      exact ⟨other, List.mem_cons_of_mem _ among, second⟩

theorem exists_forall₂ {related : α → β → Prop} {elements : List α}
    (each : ∀ element ∈ elements, ∃ result, related element result) :
    ∃ results, List.Forall₂ related elements results := by
  induction elements with
  | nil => exact ⟨[], .nil⟩
  | cons head tail inductionHypothesis =>
      obtain ⟨⟨result, first⟩, others⟩ := List.forall_mem_cons.1 each
      obtain ⟨results, paired⟩ := inductionHypothesis others
      exact ⟨result :: results, .cons first paired⟩

/-- A traversal succeeds exactly if every element does. -/
theorem exists_mapM_eq_ok_iff {elements : List α} :
    (∃ results, elements.mapM step = .ok results) ↔
      ∀ element ∈ elements, ∃ result, step element = .ok result := by
  constructor
  · rintro ⟨results, given⟩ element member
    obtain ⟨result, -, same⟩ := exists_of_mem (mapM_eq_ok_iff.1 given) element member
    exact ⟨result, same⟩
  · intro passes
    cases given : elements.mapM step with
    | ok results => exact ⟨results, rfl⟩
    | error failure =>
        obtain ⟨before, element, after, rfl, -, failed⟩ := mapM_eq_error_iff.1 given
        obtain ⟨result, passed⟩ := passes element (by simp)
        exact absurd (failed.symm.trans passed) (by simp)

/-- Two traversals agree if they agree on each pair of elements. -/
theorem mapM_congr {other : β → Except ε γ} {elements : List α} {others : List β}
    {step : α → Except ε γ}
    (paired : List.Forall₂ (fun element partner => step element = other partner)
      elements others) :
    elements.mapM step = others.mapM other := by
  induction paired with
  | nil => rfl
  | @cons head partner tail partners first _ inductionHypothesis =>
      rw [List.mapM_cons, List.mapM_cons, first, inductionHypothesis]

/-! ## Functions that may give nothing -/

section Option

variable {read : α → Option β}

theorem mapM_cons_of_some {head : α} {result : β} (given : read head = some result)
    (tail : List α) : (head :: tail).mapM read = (tail.mapM read).map (result :: ·) := by
  rw [List.mapM_cons, given]
  cases tail.mapM read <;> rfl

theorem mapM_eq_some_of_forall₂ {elements : List α} {results : List β}
    (given : List.Forall₂ (fun element result => read element = some result) elements results) :
    elements.mapM read = some results := by
  induction given with
  | nil => rfl
  | cons first rest inductionHypothesis =>
      rw [mapM_cons_of_some first, inductionHypothesis]
      rfl

theorem forall₂_of_mapM_eq_some {elements : List α} {results : List β}
    (given : elements.mapM read = some results) :
    List.Forall₂ (fun element result => read element = some result) elements results := by
  induction elements generalizing results with
  | nil =>
      cases given
      exact .nil
  | cons head tail inductionHypothesis =>
      cases first : read head with
      | none =>
          rw [List.mapM_cons, first] at given
          exact absurd given (by simp)
      | some result =>
          rw [mapM_cons_of_some first, Option.map_eq_some_iff] at given
          obtain ⟨others, rest, rfl⟩ := given
          exact .cons first (inductionHypothesis rest)

theorem mapM_map_eq_some {write : β → α} (undone : ∀ result, read (write result) = some result)
    (results : List β) : (results.map write).mapM read = some results := by
  apply mapM_eq_some_of_forall₂
  rw [List.forall₂_map_left_iff, List.forall₂_same]
  exact fun result _ => undone result

theorem mapM_eq_none_of_mem {elements : List α} {element : α} (member : element ∈ elements)
    (nothing : read element = none) : elements.mapM read = none := by
  induction elements with
  | nil => exact absurd member List.not_mem_nil
  | cons head tail inductionHypothesis =>
      cases given : read head with
      | none =>
          rw [List.mapM_cons, given]
          rfl
      | some result =>
          rcases List.mem_cons.1 member with rfl | later
          · rw [nothing] at given
            exact absurd given (by simp)
          · rw [mapM_cons_of_some given, inductionHypothesis later]
            rfl

end Option

end BacklogTrace.Traversal
