import BacklogTrace.Scan.State

/-!
Contract: what one step of a scan does to each part of its state.

A step opens the class of its line first; then the line is a marker line, a line
with items, or a line on which a signature is looked for. The lemmas here say,
part by part, what comes out of each, so that a proof about runs never unfolds
the step.

Owns: `Phase.IsSettled`, `Scanner.lineItems`, `Scanner.declared?`,
`Scanner.signature?`, the equations of `Scanner.feedLine`.

Does not own: runs over several lines (`Proofs.Scan.Attribution`).
-/

namespace BacklogTrace

namespace Phase

/-- A phase that waits for a method has something that waits. -/
def IsSettled : Phase → Prop
  | .pendingMethod _ _ methodItems => methodItems ≠ []
  | .outside | .pendingClass _ | .inClass _ _ => True

theorem isSettled_enterClass (phase : Phase) (className : Text) :
    (phase.enterClass className).IsSettled :=
  trivial

theorem isSettled_addItems {phase : Phase} {items : List Item} (settled : phase.IsSettled)
    (found : items ≠ []) : (phase.addItems items).IsSettled := by
  cases phase with
  | outside => exact trivial
  | pendingClass => exact trivial
  | inClass => exact found
  | pendingMethod _ _ methodItems =>
      change methodItems ≠ [] at settled
      change methodItems ++ items ≠ []
      simp [settled]

theorem methodItems_of_className?_eq_none {phase : Phase} (outside : phase.className? = none) :
    phase.methodItems = [] := by
  cases phase <;> first | rfl | simp [className?] at outside

theorem classItems_addItems (phase : Phase) (items : List Item) :
    (phase.addItems items).classItems =
      if phase.className?.isSome then phase.classItems else phase.classItems ++ items := by
  cases phase <;> simp [addItems, classItems, className?]

theorem methodItems_addItems (phase : Phase) (items : List Item) :
    (phase.addItems items).methodItems =
      if phase.className?.isSome then phase.methodItems ++ items else [] := by
  cases phase <;> simp [addItems, methodItems, className?]

/-- A signature is awaited in a class as soon as anything waits. -/
theorem awaitingClass?_of_isSettled {phase : Phase} (settled : phase.IsSettled) :
    phase.awaitingClass? =
      if phase.classItems = [] ∧ phase.methodItems = [] then none else phase.className? := by
  cases phase with
  | outside => simp [awaitingClass?, className?]
  | pendingClass => simp [awaitingClass?, className?]
  | inClass _ classItems =>
      cases classItems <;> simp [awaitingClass?, Phase.classItems, methodItems, className?]
  | pendingMethod _ _ methodItems =>
      have waiting : methodItems ≠ [] := settled
      simp [awaitingClass?, Phase.methodItems, className?, waiting]

end Phase

namespace Scanner

variable (scanner : Scanner)

/-- The items that a line contributes: a marker line contributes none. -/
def lineItems (line : Text) : List Item :=
  if scanner.dialect.testMarker line then [] else scanner.extractor line

/-- The method that a line declares to the dialect, whatever else the line is. -/
def declared? (line : Text) : Option Text :=
  match scanner.dialect.methodSignature line with
  | .error _ => none
  | .ok method? => method?

/-- The method of a signature line: it is no marker line and contributes no
items. -/
def signature? (line : Text) : Option Text :=
  if scanner.dialect.testMarker line = true ∨ scanner.lineItems line ≠ [] then
    none
  else
    scanner.declared? line

@[simp] theorem signature?_of_marker {line : Text}
    (marker : scanner.dialect.testMarker line = true) : scanner.signature? line = none := by
  simp [signature?, marker]

theorem signature?_of_lineItems {line : Text} (found : scanner.lineItems line ≠ []) :
    scanner.signature? line = none := by
  simp [signature?, found]

/-! ## Opening a class -/

theorem className?_openClass (state : ScanState) (line : Text) :
    (scanner.openClass state line).phase.className? =
      (scanner.dialect.classStart line).or state.phase.className? := by
  unfold openClass
  cases scanner.dialect.classStart line <;> rfl

@[simp] theorem classItems_openClass (state : ScanState) (line : Text) :
    (scanner.openClass state line).phase.classItems = state.phase.classItems := by
  unfold openClass
  cases scanner.dialect.classStart line <;> rfl

theorem methodItems_openClass (state : ScanState) (line : Text) :
    (scanner.openClass state line).phase.methodItems =
      if (scanner.dialect.classStart line).isSome then [] else state.phase.methodItems := by
  unfold openClass
  cases scanner.dialect.classStart line <;> rfl

@[simp] theorem marked_openClass (state : ScanState) (line : Text) :
    (scanner.openClass state line).marked = state.marked := by
  unfold openClass
  cases scanner.dialect.classStart line <;> rfl

@[simp] theorem records_openClass (state : ScanState) (line : Text) :
    (scanner.openClass state line).records = state.records := by
  unfold openClass
  cases scanner.dialect.classStart line <;> rfl

theorem isSettled_openClass {state : ScanState} (settled : state.phase.IsSettled) (line : Text) :
    (scanner.openClass state line).phase.IsSettled := by
  unfold openClass
  cases scanner.dialect.classStart line with
  | none => exact settled
  | some className => exact Phase.isSettled_enterClass state.phase className

/-! ## The three kinds of line -/

@[simp] theorem phase_meetMarker (state : ScanState) (line : Text) :
    (scanner.meetMarker state line).phase = state.phase := by
  unfold meetMarker
  split <;> rfl

@[simp] theorem records_meetMarker (state : ScanState) (line : Text) :
    (scanner.meetMarker state line).records = state.records := by
  unfold meetMarker
  split <;> rfl

/-- A marker line changes the marker alone. -/
theorem feedLine_of_marker (state : ScanState) {line : Text}
    (marker : scanner.dialect.testMarker line = true) :
    scanner.feedLine state line =
      .ok (scanner.meetMarker (scanner.openClass state line) line) := by
  simp [feedLine, marker]

theorem feedLine_of_lineItems (state : ScanState) {line : Text}
    (found : scanner.lineItems line ≠ []) :
    scanner.feedLine state line =
      .ok { scanner.openClass state line with
        phase := (scanner.openClass state line).phase.addItems (scanner.lineItems line) } := by
  have plain : scanner.dialect.testMarker line = false := by
    rw [Bool.eq_false_iff]
    intro marker
    exact found (by simp [lineItems, marker])
  simp only [lineItems, plain, Bool.false_eq_true, if_false] at found ⊢
  simp [feedLine, plain, found]

theorem feedLine_of_plain (state : ScanState) {line : Text}
    (plain : scanner.dialect.testMarker line = false) (bare : scanner.lineItems line = []) :
    scanner.feedLine state line = scanner.seekMethod (scanner.openClass state line) line := by
  simp only [lineItems, plain, Bool.false_eq_true, if_false] at bare
  simp [feedLine, plain, bare]

theorem feed_of_blank (state : ScanState) {line : Text}
    (blank : Text.isAllBlank (dropLineEnding line) = true) :
    scanner.feed state line = .ok state := by
  simp [feed, blank]

theorem feed_of_not_blank (state : ScanState) {line : Text}
    (written : Text.isAllBlank (dropLineEnding line) = false) :
    scanner.feed state line = scanner.feedLine state (dropLineEnding line) := by
  simp [feed, written]

/-- A line that does not end in layout is read as it stands. -/
theorem feed_of_getLast? (state : ScanState) {line : Text} {last : Char}
    (ends : line.getLast? = some last) (solid : Text.isBlank last = false) :
    scanner.feed state line = scanner.feedLine state line := by
  obtain ⟨before, rfl⟩ := List.getLast?_eq_some_iff.1 ends
  have kept : dropLineEnding (before ++ [last]) = before ++ [last] := by
    apply Sequence.dropEndWhile_append_of_not
    rw [Bool.eq_false_iff]
    intro ending
    rw [Bool.or_eq_true, beq_iff_eq, beq_iff_eq] at ending
    rcases ending with rfl | rfl
    · exact absurd solid (by decide)
    · exact absurd solid (by decide)
  have written : Text.isAllBlank (before ++ [last]) = false := by
    simp [Text.isAllBlank, solid]
  rw [← kept] at written
  rw [scanner.feed_of_not_blank state written, kept]

theorem feedAll_cons_of_ok {state next : ScanState} {line : Text}
    (fed : scanner.feed state line = .ok next) (lines : List Text) :
    scanner.feedAll state (line :: lines) = scanner.feedAll next lines := by
  rw [feedAll, fed]

theorem feedAll_cons_of_error {state : ScanState} {line : Text} {fault : ScanFault}
    (fed : scanner.feed state line = .error fault) (lines : List Text) :
    scanner.feedAll state (line :: lines) = .error fault := by
  rw [feedAll, fed]

/-! ## Looking for a signature -/

theorem seekMethod_of_idle {state : ScanState} (idle : state.phase.awaitingClass? = none)
    (line : Text) : scanner.seekMethod state line = .ok state := by
  simp [seekMethod, idle]

theorem seekMethod_eq_ok {state next : ScanState} {className line : Text}
    (awaited : state.phase.awaitingClass? = some className)
    (sought : scanner.seekMethod state line = .ok next) :
    (scanner.declared? line = none ∧ next = state) ∨
      ∃ method, scanner.declared? line = some method ∧
        next = scanner.meetMethod state className method := by
  simp only [seekMethod, awaited] at sought
  simp only [declared?]
  cases answer : scanner.dialect.methodSignature line with
  | error fault => simp [answer] at sought
  | ok method? =>
      cases method? with
      | none =>
          left
          simp only [answer] at sought
          exact ⟨rfl, (Except.ok.inj sought).symm⟩
      | some method =>
          right
          simp only [answer] at sought
          exact ⟨method, rfl, (Except.ok.inj sought).symm⟩

/-! ## The records of a method -/

theorem mem_recordOf_iff {test : TestMethod} {items : List Item} {record : Record} :
    record ∈ recordOf test items ↔ items ≠ [] ∧ record = ⟨test, items⟩ := by
  unfold recordOf
  cases items <;> simp

theorem length_recordOf (test : TestMethod) (items : List Item) :
    (recordOf test items).length = if items.isEmpty then 0 else 1 := by
  unfold recordOf
  split <;> rfl

theorem recordOf_of_ne_nil (test : TestMethod) {items : List Item} (present : items ≠ []) :
    recordOf test items = [⟨test, items⟩] := by
  rw [recordOf, if_neg]
  rwa [List.isEmpty_iff]

end Scanner

end BacklogTrace
