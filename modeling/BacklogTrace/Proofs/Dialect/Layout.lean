import BacklogTrace.Dialect.Language
import BacklogTrace.Proofs.Dialect.BraceSignature

/-!
Contract: no recognizer looks at the layout around a line, with one exception.

Layout at the end of a line changes no answer of either dialect. Layout before a
line changes none of Java, and of ABAP only this one: a marker begins with a
space, so a line that begins with `FOR TESTING` becomes a marker line when it is
indented.

Owns: `Dialect.Alike`, `Dialect.wordsAfter`, `Language.AllowsIndent`.

Does not own: the items of a line in layout (`Proofs.Marker`), scans
(`Proofs.Scan.Layout`).
-/

namespace BacklogTrace

/-- A dialect gives the same answers on both lines. -/
structure Dialect.Alike (dialect : Dialect) (line other : Text) : Prop where
  classStart : dialect.classStart line = dialect.classStart other
  testMarker : dialect.testMarker line = dialect.testMarker other
  methodSignature : dialect.methodSignature line = dialect.methodSignature other

namespace Dialect

variable {layout : Text}

/-! ## ABAP -/

/-- The words that follow a keyword at the start of a line. -/
def wordsAfter (keyword line : Text) : List Text :=
  match afterKeyword? keyword line with
  | none => []
  | some rest => Text.words rest

/-- The class that the words after `CLASS` define. -/
def classOfWords? : List Text → Option Text
  | [] => none
  | name :: others =>
      if (others.any fun word => dropPeriods word == "DEFINITION".toList) &&
          name != "DEFINITION".toList then
        some name
      else
        none

/-- The method that the words after `METHOD` implement. -/
def methodOfWords? : List Text → Option Text
  | [] => none
  | word :: _ => if (dropPeriods word).isEmpty then none else some (dropPeriods word)

theorem abapClassStart_eq_classOfWords? (line : Text) :
    abapClassStart line = classOfWords? (wordsAfter "CLASS ".toList line) := by
  unfold abapClassStart wordsAfter
  cases afterKeyword? "CLASS ".toList line <;> rfl

theorem abapMethodSignature_eq_methodOfWords? (line : Text) :
    abapMethodSignature line = methodOfWords? (wordsAfter "METHOD ".toList line) := by
  unfold abapMethodSignature wordsAfter
  cases afterKeyword? "METHOD ".toList line <;> rfl

/-- ABAP looks at the words after its keywords alone. -/
theorem abapClassStart_eq_of_wordsAfter {line other : Text}
    (same : wordsAfter "CLASS ".toList line = wordsAfter "CLASS ".toList other) :
    abapClassStart line = abapClassStart other := by
  rw [abapClassStart_eq_classOfWords?, same, ← abapClassStart_eq_classOfWords?]

theorem abapMethodSignature_eq_of_wordsAfter {line other : Text}
    (same : wordsAfter "METHOD ".toList line = wordsAfter "METHOD ".toList other) :
    abapMethodSignature line = abapMethodSignature other := by
  rw [abapMethodSignature_eq_methodOfWords?, same, ← abapMethodSignature_eq_methodOfWords?]

theorem wordsAfter_prepend (keyword : Text) (blank : Text.isAllBlank layout = true)
    (line : Text) : wordsAfter keyword (layout ++ line) = wordsAfter keyword line := by
  unfold wordsAfter afterKeyword?
  rw [Text.trimStart_append_of_isAllBlank blank]

/-- Layout after a line may complete a keyword, but then no word follows it. -/
theorem wordsAfter_append (keyword line : Text) (blank : Text.isAllBlank layout = true) :
    wordsAfter keyword (line ++ layout) = wordsAfter keyword line := by
  obtain ⟨ending, shape, endsBlank⟩ := Text.exists_append_of_trimStart line blank
  unfold wordsAfter afterKeyword?
  rw [shape]
  cases begins : keyword.isPrefixOf? (Text.trimStart line) with
  | some rest =>
      have whole := List.isPrefixOf?_eq_some_iff_append_eq.1 begins
      have longer : keyword.isPrefixOf? (Text.trimStart line ++ ending) = some (rest ++ ending) := by
        rw [List.isPrefixOf?_eq_some_iff_append_eq, ← whole, List.append_assoc]
      rw [longer]
      exact Text.words_append_of_isAllBlank rest endsBlank
  | none =>
      cases completed : keyword.isPrefixOf? (Text.trimStart line ++ ending) with
      | none => rfl
      | some rest =>
          have whole := List.isPrefixOf?_eq_some_iff_append_eq.1 completed
          rcases List.append_eq_append_iff.1 whole with ⟨between, inside, -⟩ | ⟨between, -, outside⟩
          · rw [List.isPrefixOf?_eq_some_iff_append_eq.2 inside.symm] at begins
            exact absurd begins (by simp)
          · rw [outside, Text.isAllBlank, List.all_append, Bool.and_eq_true] at endsBlank
            exact Text.words_of_isAllBlank endsBlank.2

theorem abap_alike_append (line : Text) (blank : Text.isAllBlank layout = true) :
    abap.Alike (line ++ layout) line where
  classStart := abapClassStart_eq_of_wordsAfter (wordsAfter_append _ line blank)
  testMarker := by
    have ends : " FOR TESTING".toList.getLast? = some 'G' := rfl
    exact Sequence.occursIn_append_of_getLast? ends
      (Text.not_mem_of_isAllBlank blank (by decide)) line
  methodSignature :=
    congrArg Except.ok (abapMethodSignature_eq_of_wordsAfter (wordsAfter_append _ line blank))

theorem abap_alike_prepend (blank : Text.isAllBlank layout = true) {line : Text}
    (apart : ¬ "FOR TESTING".toList <+: line) : abap.Alike (layout ++ line) line where
  classStart := abapClassStart_eq_of_wordsAfter (wordsAfter_prepend _ blank line)
  testMarker :=
    Sequence.occursIn_prepend_of_not_prefix
      (Text.not_mem_of_isAllBlank blank (by decide)) apart
  methodSignature :=
    congrArg Except.ok (abapMethodSignature_eq_of_wordsAfter (wordsAfter_prepend _ blank line))

/-- An indented continuation of a definition is a marker line; one at the margin is
none. -/
example : abapTestMarker "  FOR TESTING.".toList = true ∧
    abapTestMarker "FOR TESTING.".toList = false := by decide

/-! ## Java -/

theorem javaClassStart_prepend (blank : Text.isAllBlank layout = true) (line : Text) :
    javaClassStart (layout ++ line) = javaClassStart line := by
  unfold javaClassStart
  rw [Text.trimStart_append_of_isAllBlank blank, Text.words_prepend_of_isAllBlank blank]

theorem beginsComment_append (line : Text) (blank : Text.isAllBlank layout = true) :
    beginsComment (line ++ layout) = beginsComment line := by
  have slash : '/' ∉ layout := Text.not_mem_of_isAllBlank blank (by decide)
  have star : '*' ∉ layout := Text.not_mem_of_isAllBlank blank (by decide)
  unfold beginsComment
  rw [Bool.eq_iff_iff]
  simp only [Bool.or_eq_true, List.isPrefixOf_iff_prefix]
  rw [Sequence.prefix_append_iff_of_getLast? (show "//".toList.getLast? = some '/' from rfl) slash,
    Sequence.prefix_append_iff_of_getLast? (show "*".toList.getLast? = some '*' from rfl) star,
    Sequence.prefix_append_iff_of_getLast? (show "/*".toList.getLast? = some '*' from rfl) star]

theorem javaClassStart_append (line : Text) (blank : Text.isAllBlank layout = true) :
    javaClassStart (line ++ layout) = javaClassStart line := by
  obtain ⟨ending, shape, endsBlank⟩ := Text.exists_append_of_trimStart line blank
  unfold javaClassStart
  rw [shape, beginsComment_append _ endsBlank, Text.words_append_of_isAllBlank line blank]

theorem javaTestMarker_prepend (blank : Text.isAllBlank layout = true) (line : Text) :
    javaTestMarker (layout ++ line) = javaTestMarker line := by
  unfold javaTestMarker
  rw [Text.trimStart_append_of_isAllBlank blank]

/-- Layout ends an annotation, as the end of the line does. -/
theorem javaTestMarker_append (line : Text) (blank : Text.isAllBlank layout = true) :
    javaTestMarker (line ++ layout) = javaTestMarker line := by
  obtain ⟨ending, shape, endsBlank⟩ := Text.exists_append_of_trimStart line blank
  have absent : 't' ∉ ending := Text.not_mem_of_isAllBlank endsBlank (by decide)
  unfold javaTestMarker
  rw [shape,
    Sequence.isPrefixOf?_append_of_getLast? (show "@Test".toList.getLast? = some 't' from rfl) absent]
  cases "@Test".toList.isPrefixOf? (Text.trimStart line) with
  | none => rfl
  | some after =>
      cases after with
      | cons next rest => rfl
      | nil =>
          cases ending with
          | nil => rfl
          | cons first rest =>
              rw [Text.isAllBlank, List.all_cons, Bool.and_eq_true] at endsBlank
              have other : (Text.isIdentifierCharacter first || first == '.') = false := by
                rw [Bool.or_eq_false_iff, Bool.eq_false_iff]
                refine ⟨fun identifier => ?_, ?_⟩
                · rw [Text.not_isBlank_of_isIdentifierCharacter identifier] at endsBlank
                  exact absurd endsBlank.1 (by decide)
                · rw [beq_eq_false_iff_ne]
                  intro period
                  rw [period] at endsBlank
                  exact absurd endsBlank.1 (by decide)
              change (!(Text.isIdentifierCharacter first || first == '.')) = true
              rw [other]
              rfl

theorem java_alike_append (line : Text) (blank : Text.isAllBlank layout = true) :
    java.Alike (line ++ layout) line where
  classStart := javaClassStart_append line blank
  testMarker := javaTestMarker_append line blank
  methodSignature :=
    BraceSignature.read_append_of_not_mem line (Text.not_mem_of_isAllBlank blank (by decide))

theorem java_alike_prepend (blank : Text.isAllBlank layout = true) (line : Text) :
    java.Alike (layout ++ line) line where
  classStart := javaClassStart_prepend blank line
  testMarker := javaTestMarker_prepend blank line
  methodSignature := BraceSignature.read_prepend_of_isAllBlank blank line

end Dialect

/-- A line may be indented without a change of its meaning. -/
def Language.AllowsIndent : Language → Text → Prop
  | .abap, line => ¬ "FOR TESTING".toList <+: Text.trim line
  | .java, _ => True

theorem Language.alike_append (language : Language) (line : Text) {layout : Text}
    (blank : Text.isAllBlank layout = true) : language.dialect.Alike (line ++ layout) line := by
  cases language with
  | abap => exact Dialect.abap_alike_append line blank
  | java => exact Dialect.java_alike_append line blank

theorem Language.alike_prepend {language : Language} {layout line : Text}
    (blank : Text.isAllBlank layout = true) (allowed : language.AllowsIndent line) :
    language.dialect.Alike (layout ++ Text.trimEnd line) (Text.trimEnd line) := by
  cases language with
  | java => exact Dialect.java_alike_prepend blank _
  | abap =>
      apply Dialect.abap_alike_prepend blank
      intro begins
      apply allowed
      -- a line that begins with a letter has no layout to lose at its start
      obtain ⟨rest, shape⟩ := begins
      obtain ⟨ending, whole, -⟩ := Text.exists_append_of_trimEnd line
      have kept : Text.trimStart line = line := by
        rw [whole, ← shape]
        rfl
      rw [Text.trim, kept, ← shape]
      exact List.prefix_append _ rest

end BacklogTrace
