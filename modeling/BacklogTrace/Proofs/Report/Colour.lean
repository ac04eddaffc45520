import BacklogTrace.Report.Colour

/-!
Contract: colour that is taken off again.

A control sequence begins with an escape and a bracket and ends with the next `m`.
With its control sequences left out, a part that is written in a style is the part
itself, and what stands before and after it is neither touched nor joined, as long as
no part holds an escape of its own.

Owns: `Style.plain`.

Does not own: which parts of a report hold no escape (`Proofs.Report.Text`).
-/

namespace BacklogTrace.Style

/-- A text without its control sequences, given whether one has begun. -/
def plainFrom : Bool → Text → Text
  | _, [] => []
  | true, character :: rest => plainFrom (character != 'm') rest
  | false, '\x1b' :: '[' :: rest => plainFrom true rest
  | false, character :: rest => character :: plainFrom false rest

/-- A text without its control sequences. -/
def plain (text : Text) : Text :=
  plainFrom false text

theorem plain_cons {character : Char} (other : character ≠ '\x1b') (rest : Text) :
    plain (character :: rest) = character :: plain rest := by
  unfold plain
  rw [plainFrom]
  intro _ escape
  exact absurd escape other

/-- Text without an escape stays as it is. -/
theorem plain_append {text : Text} (clear : '\x1b' ∉ text) (rest : Text) :
    plain (text ++ rest) = text ++ plain rest := by
  induction text with
  | nil => rfl
  | cons character text inductionHypothesis =>
      rw [List.mem_cons, not_or] at clear
      rw [List.cons_append, plain_cons (Ne.symm clear.1), inductionHypothesis clear.2]
      rfl

theorem plain_of_not_mem {text : Text} (clear : '\x1b' ∉ text) : plain text = text := by
  have whole := plain_append clear []
  rwa [List.append_nil, show plain [] = [] from rfl, List.append_nil] at whole

theorem plainFrom_true_append {parameter : Text} (unended : 'm' ∉ parameter) (rest : Text) :
    plainFrom true (parameter ++ 'm' :: rest) = plain rest := by
  induction parameter with
  | nil => rfl
  | cons character parameter inductionHypothesis =>
      rw [List.mem_cons, not_or] at unended
      have goesOn : (character != 'm') = true := by simpa using Ne.symm unended.1
      rw [List.cons_append, plainFrom, goesOn, inductionHypothesis unended.2]

theorem plain_sequence_append {parameter : Text} (unended : 'm' ∉ parameter) (rest : Text) :
    plain (sequence parameter ++ rest) = plain rest := by
  have shape : sequence parameter ++ rest = '\x1b' :: '[' :: (parameter ++ 'm' :: rest) := by
    simp [sequence]
  rw [shape]
  exact plainFrom_true_append unended rest

/-- A part in a style is the part and two sequences. -/
theorem plain_wrap_append (style : Style) (coloured : Bool) {part : Text}
    (clear : '\x1b' ∉ part) (rest : Text) :
    plain (style.wrap coloured part ++ rest) = part ++ plain rest := by
  cases coloured with
  | false => exact plain_append clear rest
  | true =>
      have begins : 'm' ∉ style.beginning := by cases style <;> decide
      have ends : 'm' ∉ style.ending := by cases style <;> decide
      have wrapped : style.wrap true part = sequence style.beginning ++ part ++
          sequence style.ending := if_pos rfl
      rw [wrapped, List.append_assoc, List.append_assoc, plain_sequence_append begins,
        plain_append clear, plain_sequence_append ends]

end BacklogTrace.Style
