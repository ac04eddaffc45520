import BacklogTrace.Proofs.Dialect.BraceSignature
import BacklogTrace.Proofs.Scan.Position
import BacklogTrace.Scan.Input

/-!
Contract: when a declared method puts an end to the items that wait for one.

A line that declares a method ends the wait of earlier items when it opens a
class, or when the scan comes to look for its signature. On a marker line and on
a line with items the scan does not look, so that the items go on waiting for a
later method.

Owns: `Scanner.keepsItems`, what waits after a line that declares a method.

Does not own: markers (`Proofs.Scan.MarkerReach`).
-/

namespace BacklogTrace

theorem Phase.methodItems_of_awaitingClass?_eq_none {phase : Phase}
    (idle : phase.awaitingClass? = none) : phase.methodItems = [] := by
  cases phase with
  | pendingMethod => exact absurd idle (by simp [awaitingClass?])
  | outside => rfl
  | pendingClass => rfl
  | inClass => rfl

theorem Phase.className?_isSome_of_methodItems {phase : Phase} (waiting : phase.methodItems ≠ []) :
    phase.className?.isSome = true := by
  cases phase with
  | pendingMethod => rfl
  | outside => exact absurd rfl waiting
  | pendingClass => exact absurd rfl waiting
  | inClass => exact absurd rfl waiting

namespace Scanner

variable {scanner : Scanner} {state : ScanState} {line method : Text}

/-- A line in a class on which the scan looks for no signature: it opens no class
itself, and it is a marker line or has items. -/
def keepsItems (scanner : Scanner) (line : Text) : Bool :=
  (scanner.dialect.classStart line).isNone &&
    (scanner.dialect.testMarker line || !(scanner.lineItems line).isEmpty)

/-- A search that meets a declared method leaves nothing waiting for one. -/
theorem exists_seekMethod_of_declared (state : ScanState)
    (declares : scanner.dialect.methodSignature line = .ok (some method)) :
    ∃ next, scanner.seekMethod state line = .ok next ∧ next.phase.methodItems = [] := by
  unfold seekMethod
  cases awaited : state.phase.awaitingClass? with
  | none => exact ⟨state, rfl, Phase.methodItems_of_awaitingClass?_eq_none awaited⟩
  | some className =>
      rw [declares]
      exact ⟨scanner.meetMethod state className method, rfl, rfl⟩

/-- After a line that declares a method, the items wait that waited before, if the
line keeps them, and its own. -/
theorem exists_feedLine_of_declared (waiting : state.phase.methodItems ≠ [])
    (declares : scanner.dialect.methodSignature line = .ok (some method)) :
    ∃ next, scanner.feedLine state line = .ok next ∧
      next.phase.methodItems =
        (if scanner.keepsItems line then state.phase.methodItems else []) ++
          scanner.lineItems line := by
  have inClass : (scanner.openClass state line).phase.className?.isSome = true := by
    rw [className?_openClass, Option.isSome_or, Phase.className?_isSome_of_methodItems waiting,
      Bool.or_true]
  have opened := scanner.methodItems_openClass state line
  cases marker : scanner.dialect.testMarker line with
  | true =>
      have bare : scanner.lineItems line = [] := by simp [lineItems, marker]
      refine ⟨_, scanner.feedLine_of_marker state marker, ?_⟩
      rw [phase_meetMarker, opened, bare, keepsItems, marker]
      cases scanner.dialect.classStart line <;> simp
  | false =>
      by_cases bare : scanner.lineItems line = []
      · obtain ⟨next, sought, cleared⟩ :=
          exists_seekMethod_of_declared (scanner.openClass state line) declares
        refine ⟨next, ?_, ?_⟩
        · rw [scanner.feedLine_of_plain state marker bare, sought]
        · simp [cleared, keepsItems, marker, bare]
      · refine ⟨_, scanner.feedLine_of_lineItems state bare, ?_⟩
        rw [Phase.methodItems_addItems, if_pos inClass, opened, keepsItems]
        cases scanner.dialect.classStart line <;> simp [bare]

theorem read_dropLineEnding (line : Text) :
    BraceSignature.read (dropLineEnding line) = BraceSignature.read line := by
  obtain ⟨ending, shape, dropped⟩ := Sequence.exists_append_of_dropEndWhile
    (fun character => character == '\n' || character == '\r') line
  have noBrace : '{' ∉ ending := by
    intro member
    exact absurd (dropped _ member) (by decide)
  conv_rhs => rw [shape]
  exact (BraceSignature.read_append_of_not_mem _ noBrace).symm

/-- In every state of a scan of Java in which items wait for a method, and for
every line that declares one: after the line nothing waits, or the items of the
line alone, exactly when the line opens a class, or is no marker line and has no
items, or is a marker line that lists the waiting items over again. -/
theorem methodItems_cleared_iff (fileUrl : Text) {state : ScanState}
    (waiting : state.phase.methodItems ≠ []) {line method : Text}
    (declares : BraceSignature.read line = .ok (some method)) :
    ∃ next, (ofLanguage .java fileUrl).feed state line = .ok next ∧
      ((next.phase.methodItems = [] ∨
          next.phase.methodItems = Marker.extract (dropLineEnding line)) ↔
        (Dialect.javaClassStart (dropLineEnding line)).isSome = true ∨
          (Dialect.javaTestMarker (dropLineEnding line) = false ∧
            Marker.extract (dropLineEnding line) = []) ∨
          (Dialect.javaTestMarker (dropLineEnding line) = true ∧
            state.phase.methodItems = Marker.extract (dropLineEnding line))) := by
  have declared : BraceSignature.read (dropLineEnding line) = .ok (some method) :=
    (read_dropLineEnding line).trans declares
  have written := BraceSignature.isAllBlank_eq_false_of_read declared
  obtain ⟨next, fed, left⟩ :=
    (ofLanguage .java fileUrl).exists_feedLine_of_declared waiting declared
  refine ⟨next, by rw [feed_of_not_blank _ state written, fed], ?_⟩
  have items : (ofLanguage .java fileUrl).lineItems (dropLineEnding line) =
      if Dialect.javaTestMarker (dropLineEnding line) = true then []
        else Marker.extract (dropLineEnding line) := rfl
  have keeps : (ofLanguage .java fileUrl).keepsItems (dropLineEnding line) =
      ((Dialect.javaClassStart (dropLineEnding line)).isNone &&
        (Dialect.javaTestMarker (dropLineEnding line) ||
          !((ofLanguage .java fileUrl).lineItems (dropLineEnding line)).isEmpty)) := rfl
  rw [left, keeps, items]
  cases opens : Dialect.javaClassStart (dropLineEnding line) with
  | some className =>
      cases marker : Dialect.javaTestMarker (dropLineEnding line) <;> simp
  | none =>
      cases marker : Dialect.javaTestMarker (dropLineEnding line) with
      | true => simp [waiting]
      | false =>
          by_cases bare : Marker.extract (dropLineEnding line) = []
          · simp [bare]
          · simp [bare, waiting]

/-- A signature on a line of its own uses the items. -/
theorem methodItems_cleared_plain :
    (Phase.pendingMethod "A".toList [] [⟨"A-1".toList, .jira⟩]).methodItems ≠ [] ∧
      BraceSignature.read "void run() \x7b".toList = .ok (some "run".toList) ∧
      ∃ next, (ofLanguage .java "A.java".toList).feed
          ⟨.pendingMethod "A".toList [] [⟨"A-1".toList, .jira⟩], true, []⟩
          "void run() \x7b".toList = .ok next ∧
        (next.phase.methodItems = [] ∨
          next.phase.methodItems = Marker.extract (dropLineEnding "void run() \x7b".toList)) := by
  have waiting : (Phase.pendingMethod "A".toList [] [⟨"A-1".toList, .jira⟩]).methodItems ≠ [] := by
    decide
  have declares : BraceSignature.read "void run() \x7b".toList = .ok (some "run".toList) := rfl
  obtain ⟨next, fed, cleared⟩ := @methodItems_cleared_iff "A.java".toList
    ⟨.pendingMethod "A".toList [] [⟨"A-1".toList, .jira⟩], true, []⟩ waiting _ _ declares
  exact ⟨waiting, declares, next, fed, cleared.2 (Or.inr (Or.inl (by decide +kernel)))⟩

/-- A signature behind its own marker leaves the items waiting. -/
theorem methodItems_not_cleared_by_marked_signature :
    (ofLanguage .java "A.java".toList).feedAll .start
        ["class A \x7b".toList, "// Trace(Jira:A-1)".toList] =
      .ok ⟨.pendingMethod "A".toList [] [⟨"A-1".toList, .jira⟩], false, []⟩ ∧
    BraceSignature.read "@Test void first() \x7b".toList = .ok (some "first".toList) ∧
    Marker.extract (dropLineEnding "@Test void first() \x7b".toList) = [] ∧
    (ofLanguage .java "A.java".toList).feed
        ⟨.pendingMethod "A".toList [] [⟨"A-1".toList, .jira⟩], false, []⟩
        "@Test void first() \x7b".toList =
      .ok ⟨.pendingMethod "A".toList [] [⟨"A-1".toList, .jira⟩], true, []⟩ := by
  refine ⟨rfl, rfl, ?_, rfl⟩
  decide +kernel

end Scanner

end BacklogTrace
