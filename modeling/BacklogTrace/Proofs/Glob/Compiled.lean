import BacklogTrace.FileSearch.Standard
import BacklogTrace.Proofs.Glob.Filter
import BacklogTrace.Proofs.Traversal

/-!
Contract: what the standard search compiles patterns to.

Owns: `Glob.Matches`, `Glob.decidedBy_matches`.

Does not own: what a pattern matches (`Glob.Matching`).
-/

namespace BacklogTrace.Glob

/-- A text is a pattern that matches a whole path. -/
def Matches (text : Text) (path : Bytes) : Prop :=
  ∃ pattern, readPattern? text = some pattern ∧ pattern.isMatch path = true

theorem any_isMatch_iff {texts : List Text} {patterns : List Pattern}
    (given : texts.mapM readPattern? = some patterns) (path : Bytes) :
    (patterns.any fun pattern => pattern.isMatch path) = true ↔
      ∃ text ∈ texts, Matches text path := by
  induction Traversal.forall₂_of_mapM_eq_some given with
  | nil => simp
  | @cons text pattern texts patterns first rest inductionHypothesis =>
      have here : pattern.isMatch path = true ↔ Matches text path := by
        simp [Matches, first]
      rw [List.any_cons, Bool.or_eq_true, here,
        inductionHypothesis (Traversal.mapM_eq_some_of_forall₂ rest)]
      simp

/-- The standard search decides patterns one by one. -/
theorem decidedBy_matches : @DecidedBy FileSearch.standard Matches := by
  intro texts isMatch given path
  change compile? texts = some isMatch at given
  rw [compile?] at given
  split at given
  case h_1 => exact absurd given (by simp)
  case h_2 patterns patternsRead =>
    split at given
    case isFalse => exact absurd given (by simp)
    case isTrue =>
      rw [← Option.some.inj given]
      exact any_isMatch_iff patternsRead path

end BacklogTrace.Glob
