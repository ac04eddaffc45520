import BacklogTrace.Proofs.Sequence
import BacklogTrace.Text.Alphanumeric
import BacklogTrace.Text.Basic

/-!
Contract: trimming and cutting of text whose layout is known.

Text without layout survives trimming and is a single word; a word that layout
follows is the first word of its line. Layout before or after a text changes
neither its trimmed form nor its words.

Owns: `trim` and `words` of text with layout at known places.

Does not own: which characters are layout.
-/

namespace BacklogTrace.Text

/-- No layout stands in the text. -/
def IsSolid (text : Text) : Prop :=
  ∀ character ∈ text, isBlank character = false

theorem not_mem_of_isAllBlank {layout : Text} (blank : isAllBlank layout = true)
    {character : Char} (solid : isBlank character = false) : character ∉ layout := by
  intro member
  have inLayout := List.all_eq_true.1 blank character member
  rw [solid] at inLayout
  exact absurd inLayout (by decide)

theorem trimStart_append_of_isAllBlank {layout : Text} (blank : isAllBlank layout = true)
    (text : Text) : trimStart (layout ++ text) = trimStart text := by
  unfold trimStart
  exact List.dropWhile_append_of_pos (List.all_eq_true.1 blank)

theorem trimStart_of_isSolid {text : Text} (solid : IsSolid text) : trimStart text = text := by
  cases text with
  | nil => rfl
  | cons head tail => simp [trimStart, solid head (by simp)]

theorem trimEnd_of_isSolid {text : Text} (solid : IsSolid text) : trimEnd text = text := by
  rcases List.eq_nil_or_concat text with rfl | ⟨before, last, rfl⟩
  · rfl
  · rw [trimEnd, List.concat_eq_append]
    exact Sequence.dropEndWhile_append_of_not isBlank before (solid last (by simp))

theorem trim_append_of_isSolid {layout text : Text} (blank : isAllBlank layout = true)
    (solid : IsSolid text) : trim (layout ++ text) = text := by
  rw [trim, trimStart_append_of_isAllBlank blank, trimStart_of_isSolid solid,
    trimEnd_of_isSolid solid]

theorem trim_of_isSolid {text : Text} (solid : IsSolid text) : trim text = text :=
  trim_append_of_isSolid (show isAllBlank [] = true from rfl) solid

theorem trim_prepend_of_isAllBlank {layout : Text} (blank : isAllBlank layout = true)
    (text : Text) : trim (layout ++ text) = trim text := by
  rw [trim, trimStart_append_of_isAllBlank blank, trim]

theorem trimEnd_append_of_isAllBlank (text : Text) {layout : Text}
    (blank : isAllBlank layout = true) : trimEnd (text ++ layout) = trimEnd text :=
  Sequence.dropEndWhile_append_of_forall isBlank text (List.all_eq_true.1 blank)

theorem trimEnd_prepend_of_not_isAllBlank (front : Text) {text : Text}
    (written : isAllBlank text = false) : trimEnd (front ++ text) = front ++ trimEnd text := by
  apply Sequence.dropEndWhile_append_of_exists
  obtain ⟨character, member, solid⟩ := List.all_eq_false.1 written
  exact ⟨character, member, Bool.eq_false_iff.2 solid⟩

theorem exists_append_of_trimEnd (text : Text) :
    ∃ layout, text = trimEnd text ++ layout ∧ isAllBlank layout = true := by
  obtain ⟨layout, shape, dropped⟩ := Sequence.exists_append_of_dropEndWhile isBlank text
  exact ⟨layout, shape, List.all_eq_true.2 dropped⟩

/-- Layout after a text stays after it, unless the text is layout itself. -/
theorem exists_append_of_trimStart (text : Text) {layout : Text}
    (blank : isAllBlank layout = true) :
    ∃ rest, trimStart (text ++ layout) = trimStart text ++ rest ∧ isAllBlank rest = true := by
  unfold trimStart
  rw [List.dropWhile_append]
  cases nothing : (text.dropWhile isBlank).isEmpty with
  | true =>
      have dropped : layout.dropWhile isBlank = [] :=
        List.dropWhile_eq_nil_iff.2 (List.all_eq_true.1 blank)
      refine ⟨[], ?_, rfl⟩
      rw [if_pos rfl, dropped, List.isEmpty_iff.1 nothing]
      rfl
  | false => exact ⟨layout, if_neg Bool.false_ne_true, blank⟩

/-- A text that is not all layout keeps what follows it at its front. -/
theorem trimStart_append_of_not_isAllBlank {front : Text} (written : isAllBlank front = false)
    (text : Text) : trimStart (front ++ text) = trimStart front ++ text := by
  have left : (front.dropWhile isBlank).isEmpty = false := by
    rw [List.isEmpty_eq_false_iff]
    intro dropped
    rw [isAllBlank, List.all_eq_true.2 (List.dropWhile_eq_nil_iff.1 dropped)] at written
    exact absurd written (by decide)
  unfold trimStart
  rw [List.dropWhile_append, left, if_neg Bool.false_ne_true]

/-- What trimming takes away is layout at either end. -/
theorem exists_append_of_trim (text : Text) :
    ∃ front back, text = front ++ trim text ++ back ∧ isAllBlank front = true ∧
      isAllBlank back = true := by
  obtain ⟨back, shape, blank⟩ := exists_append_of_trimEnd (trimStart text)
  refine ⟨text.takeWhile isBlank, back, ?_, List.all_takeWhile, blank⟩
  rw [List.append_assoc, trim, ← shape, trimStart, List.takeWhile_append_dropWhile]

/-- Solid text is what is left of it between layout. -/
theorem trim_of_isSolid_between {front text back : Text} (before : isAllBlank front = true)
    (solid : IsSolid text) (after : isAllBlank back = true) :
    trim (front ++ text ++ back) = text := by
  rw [List.append_assoc, trim_prepend_of_isAllBlank before, trim]
  obtain ⟨rest, shape, blank⟩ := exists_append_of_trimStart text after
  rw [shape, trimEnd_append_of_isAllBlank _ blank, trimStart_of_isSolid solid,
    trimEnd_of_isSolid solid]

/-! ## Words -/

/-- Words end at layout. -/
theorem words_append_blank {blank : Char} (layout : isBlank blank = true) (before after : Text) :
    words (before ++ blank :: after) = words before ++ words after := by
  unfold words
  rw [Sequence.splitWhere_append_separator isBlank layout, List.filter_append]

theorem words_prepend_of_isAllBlank {layout : Text} (blank : isAllBlank layout = true)
    (text : Text) : words (layout ++ text) = words text := by
  induction layout with
  | nil => rfl
  | cons head tail inductionHypothesis =>
      rw [isAllBlank, List.all_cons, Bool.and_eq_true] at blank
      have first := words_append_blank blank.1 [] (tail ++ text)
      rw [List.cons_append]
      exact first.trans (inductionHypothesis blank.2)

theorem words_of_isAllBlank {layout : Text} (blank : isAllBlank layout = true) :
    words layout = [] := by
  have none := words_prepend_of_isAllBlank blank []
  rwa [List.append_nil] at none

theorem words_append_of_isAllBlank (text : Text) {layout : Text}
    (blank : isAllBlank layout = true) : words (text ++ layout) = words text := by
  cases layout with
  | nil => rw [List.append_nil]
  | cons head tail =>
      rw [isAllBlank, List.all_cons, Bool.and_eq_true] at blank
      rw [words_append_blank blank.1, words_of_isAllBlank blank.2, List.append_nil]

theorem nonempty_and_isSolid_of_mem_words {text word : Text} (member : word ∈ words text) :
    word ≠ [] ∧ IsSolid word := by
  obtain ⟨piece, nonempty⟩ := List.mem_filter.1 member
  refine ⟨?_, Sequence.not_separates_of_mem_splitWhere isBlank text word piece⟩
  intro empty
  rw [empty] at nonempty
  exact absurd nonempty (by decide)

/-- Solid text that layout follows is a word. -/
theorem words_append_cons {word rest : Text} {blank : Char} (solid : IsSolid word)
    (nonempty : word ≠ []) (layout : isBlank blank = true) :
    words (word ++ blank :: rest) = word :: words rest := by
  unfold words
  rw [Sequence.splitWhere_append_cons isBlank solid layout, List.filter_cons, if_pos]
  simp [nonempty]

theorem words_of_isSolid {word : Text} (solid : IsSolid word) (nonempty : word ≠ []) :
    words word = [word] := by
  unfold words
  rw [Sequence.splitWhere_of_forall isBlank solid]
  simp [nonempty]

theorem not_isBlank_of_isWordCharacter {character : Char}
    (word : isWordCharacter character = true) : isBlank character = false := by
  apply not_isBlank_of_isIdentifierCharacter
  unfold isWordCharacter at word
  rw [isIdentifierCharacter, word, Bool.true_or]

theorem isSolid_of_isWordCharacter {text : Text}
    (name : ∀ character ∈ text, isWordCharacter character = true) : IsSolid text :=
  fun character member => not_isBlank_of_isWordCharacter (name character member)

end BacklogTrace.Text
