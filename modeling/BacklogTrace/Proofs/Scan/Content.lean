import BacklogTrace.Proofs.Scan.Step
import BacklogTrace.Proofs.Sequence

/-!
Contract: a scan reads its lines without their endings and passes over blank
ones.

`Scanner.content?` is what is read of a line. Two lists of lines with the same
contents lead every scan to the same end, whatever the dialect and the
extractor; so endings and blank lines may be changed freely.

Owns: `Scanner.content?`, runs over lines with equal contents.

Does not own: layout at the ends of a content, which a dialect may look at
(`Proofs.Scan.Layout`).
-/

namespace BacklogTrace.Scanner

/-- What is read of a line: nothing of a blank one. -/
def content? (line : Text) : Option Text :=
  if Text.isAllBlank (dropLineEnding line) then none else some (dropLineEnding line)

/-- Whether a character belongs to a line ending. -/
def isLineEnding (character : Char) : Bool :=
  character == '\n' || character == '\r'

theorem isBlank_of_isLineEnding {character : Char} (ending : isLineEnding character = true) :
    Text.isBlank character = true := by
  rw [isLineEnding, Bool.or_eq_true, beq_iff_eq, beq_iff_eq] at ending
  rcases ending with rfl | rfl
  · decide
  · decide

theorem exists_append_of_dropLineEnding (line : Text) :
    ∃ ending, line = dropLineEnding line ++ ending ∧
      ∀ character ∈ ending, isLineEnding character = true :=
  Sequence.exists_append_of_dropEndWhile isLineEnding line

theorem dropLineEnding_append_of_forall (line : Text) {ending : Text}
    (dropped : ∀ character ∈ ending, isLineEnding character = true) :
    dropLineEnding (line ++ ending) = dropLineEnding line :=
  Sequence.dropEndWhile_append_of_forall isLineEnding line dropped

theorem isAllBlank_dropLineEnding (line : Text) :
    Text.isAllBlank (dropLineEnding line) = Text.isAllBlank line := by
  obtain ⟨ending, shape, dropped⟩ := exists_append_of_dropLineEnding line
  have blank : Text.isAllBlank ending = true :=
    List.all_eq_true.2 fun character member => isBlank_of_isLineEnding (dropped character member)
  conv_rhs => rw [shape]
  rw [Text.isAllBlank, Text.isAllBlank, List.all_append]
  rw [Text.isAllBlank] at blank
  rw [blank, Bool.and_true]

theorem content?_of_isAllBlank {line : Text} (blank : Text.isAllBlank line = true) :
    content? line = none := by
  rw [content?, isAllBlank_dropLineEnding, if_pos blank]

theorem content?_append_of_forall (line : Text) {ending : Text}
    (dropped : ∀ character ∈ ending, isLineEnding character = true) :
    content? (line ++ ending) = content? line := by
  rw [content?, dropLineEnding_append_of_forall line dropped]
  rfl

/-- What is read of a line is read again as it stands. -/
theorem content?_of_content? {line content : Text} (read : content? line = some content) :
    content? content = some content := by
  have whole := read
  unfold content? at whole
  split at whole
  · exact absurd whole (by simp)
  · rw [← Option.some.inj whole] at read ⊢
    rw [← read, content?, content?, dropLineEnding, dropLineEnding,
      Sequence.dropEndWhile_dropEndWhile]

variable (scanner : Scanner)

theorem feed_eq_of_content? (state : ScanState) (line : Text) :
    scanner.feed state line =
      match content? line with
      | none => .ok state
      | some content => scanner.feedLine state content := by
  unfold feed content?
  split <;> rfl

theorem feedAll_filterMap_content? (state : ScanState) (lines : List Text) :
    scanner.feedAll state (lines.filterMap content?) = scanner.feedAll state lines := by
  induction lines generalizing state with
  | nil => rfl
  | cons line lines inductionHypothesis =>
      cases read : content? line with
      | none =>
          have passed : scanner.feed state line = .ok state := by
            rw [feed_eq_of_content?, read]
          rw [List.filterMap_cons_none read, feedAll_cons_of_ok scanner passed]
          exact inductionHypothesis state
      | some content =>
          have same : scanner.feed state content = scanner.feed state line := by
            rw [feed_eq_of_content?, feed_eq_of_content?, content?_of_content? read, read]
          rw [List.filterMap_cons_some read]
          cases fed : scanner.feed state line with
          | error fault =>
              rw [feedAll_cons_of_error scanner fed, feedAll_cons_of_error scanner (same.trans fed)]
          | ok next =>
              rw [feedAll_cons_of_ok scanner fed, feedAll_cons_of_ok scanner (same.trans fed)]
              exact inductionHypothesis next

/-- Lines with the same contents lead to the same state or fault. -/
theorem feedAll_eq_of_contents (state : ScanState) {lines others : List Text}
    (same : lines.filterMap content? = others.filterMap content?) :
    scanner.feedAll state lines = scanner.feedAll state others := by
  rw [← feedAll_filterMap_content?, same, feedAll_filterMap_content?]

end BacklogTrace.Scanner
