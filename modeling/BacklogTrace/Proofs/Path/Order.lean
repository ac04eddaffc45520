import BacklogTrace.Path.Basic
import Mathlib.Data.List.Lex

/-!
Contract: the order of paths.

One path comes before another by the first step in which they differ, and a step
before another by its kind, then by the bytes of its name. The comparison that
is computed says that the second path does not come before the first; it is
total and transitive, and two paths that do not come before each other take the
same steps.

Owns: `Path.Before`, laws of `Path.le`.

Does not own: sorting (`List.mergeSort`), what is sorted (`Harvest.choose`).
-/

namespace BacklogTrace.Path

section

variable {α : Type} {lt : α → α → Bool}

/-- An order on elements, given as a computation. -/
abbrev Order (lt : α → α → Bool) (left right : α) : Prop :=
  lt left right = true

/-- The computed comparison denies that the second list comes before the first. -/
theorem lexicographicLe_iff_not_lex [Std.Trichotomous (Order lt)] [Std.Asymm (Order lt)]
    (left right : List α) :
    lexicographicLe lt left right = true ↔ ¬ List.Lex (Order lt) right left := by
  induction left generalizing right with
  | nil => simp [lexicographicLe]
  | cons head tail inductionHypothesis =>
      cases right with
      | nil => simp [lexicographicLe]
      | cons other others =>
          rw [lexicographicLe, List.cons_lex_cons_iff]
          rcases trichotomous_of (Order lt) head other with before | rfl | after
          · have notAfter : ¬ Order lt other head := asymm_of (Order lt) before
            have different : other ≠ head := by
              rintro rfl
              exact notAfter before
            simp [show lt head other = true from before, notAfter, different]
          · have irreflexive : ¬ Order lt head head := fun self => asymm_of (Order lt) self self
            simp [irreflexive, Bool.eq_false_iff.2 irreflexive, inductionHypothesis]
          · have notBefore : ¬ Order lt head other := asymm_of (Order lt) after
            simp [notBefore, show lt other head = true from after]

end

/-! ## Steps -/

/-- One name comes before another by the first byte in which they differ. -/
abbrev NameBefore : Bytes → Bytes → Prop :=
  List.Lex (Order fun (left right : UInt8) => decide (left < right))

instance : Std.Asymm (Order fun (left right : UInt8) => decide (left < right)) where
  asymm left right before after := by
    rw [Order, decide_eq_true_iff, UInt8.lt_iff_toNat_lt] at before after
    omega

instance : Std.Trichotomous (Order fun (left right : UInt8) => decide (left < right)) where
  trichotomous left right notBefore notAfter := by
    rw [Order, decide_eq_true_iff, UInt8.lt_iff_toNat_lt] at notBefore notAfter
    exact UInt8.toNat_inj.1 (by omega)

instance : IsOrderConnected UInt8 (Order fun (left right : UInt8) => decide (left < right)) where
  conn left middle right before := by
    simp only [Order, decide_eq_true_iff, UInt8.lt_iff_toNat_lt] at before ⊢
    omega

theorem Component.lt_iff {left right : Component} :
    left.lt right = true ↔ left.rank < right.rank ∨
      left.rank = right.rank ∧ NameBefore left.nameBytes right.nameBytes := by
  rw [Component.lt, Bool.or_eq_true, decide_eq_true_iff, Bool.and_eq_true, beq_iff_eq,
    Bool.not_eq_true', ← Bool.not_eq_true, lexicographicLe_iff_not_lex, not_not]

theorem Component.eq_of_rank_of_nameBytes {left right : Component}
    (rank : left.rank = right.rank) (nameBytes : left.nameBytes = right.nameBytes) :
    left = right := by
  cases left <;> cases right <;> simp_all [Component.rank, Component.nameBytes]

instance : Std.Asymm (Order Component.lt) where
  asymm left right before after := by
    rcases Component.lt_iff.1 before with rank | ⟨same, name⟩ <;>
      rcases Component.lt_iff.1 after with otherRank | ⟨otherSame, otherName⟩
    · omega
    · omega
    · omega
    · exact asymm_of NameBefore name otherName

instance : Std.Trichotomous (Order Component.lt) where
  trichotomous left right notBefore notAfter := by
    rw [Order, Component.lt_iff] at notBefore notAfter
    have rank : left.rank = right.rank := by omega
    refine Component.eq_of_rank_of_nameBytes rank ?_
    exact Std.Trichotomous.trichotomous (r := NameBefore) left.nameBytes right.nameBytes
      (fun before => notBefore (.inr ⟨rank, before⟩))
      (fun after => notAfter (.inr ⟨rank.symm, after⟩))

instance : IsOrderConnected Component (Order Component.lt) where
  conn left middle right before := by
    simp only [Order, Component.lt_iff] at before ⊢
    rcases before with rank | ⟨rank, name⟩
    · omega
    · by_cases first : left.rank = middle.rank
      · rcases @IsOrderConnected.conn _ NameBefore _ _ middle.nameBytes _ name with
          before | after
        · exact .inl (.inr ⟨first, before⟩)
        · exact .inr (.inr ⟨first.symm.trans rank, after⟩)
      · omega

/-! ## Paths -/

/-- One path comes before another by the first step in which they differ. -/
def Before (left right : Path) : Prop :=
  List.Lex (Order Component.lt) left.components right.components

theorem le_iff_not_before {left right : Path} : left.le right = true ↔ ¬ right.Before left :=
  lexicographicLe_iff_not_lex left.components right.components

theorem Before.asymm {left right : Path} (before : left.Before right) : ¬ right.Before left :=
  asymm_of (List.Lex (Order Component.lt)) before

theorem le_total (left right : Path) : (left.le right || right.le left) = true := by
  rw [Bool.or_eq_true, le_iff_not_before, le_iff_not_before]
  exact Classical.or_iff_not_imp_left.2 fun before => (Classical.not_not.1 before).asymm

theorem le_trans (left middle right : Path) (first : left.le middle = true)
    (second : middle.le right = true) : left.le right = true := by
  rw [le_iff_not_before] at first second ⊢
  intro after
  rcases @IsOrderConnected.conn _ (List.Lex (Order Component.lt)) _ _ middle.components _ after
    with before | before
  · exact second before
  · exact first before

/-- A path that is no later than one with other steps comes before it. -/
theorem before_of_le {left right : Path} (first : left.le right = true)
    (different : left.components ≠ right.components) : left.Before right := by
  refine Classical.byContradiction fun notBefore => different ?_
  exact Std.Trichotomous.trichotomous (r := List.Lex (Order Component.lt)) _ _ notBefore
    (le_iff_not_before.1 first)

end BacklogTrace.Path
