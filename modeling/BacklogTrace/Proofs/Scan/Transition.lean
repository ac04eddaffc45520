import BacklogTrace.Proofs.Scan.Content

/-!
Contract: everything that a line can do to the state of a scan.

A blank line does nothing. Any other line opens its class, if it opens one, and
then it sets the marker, adds items, meets a method or does no more.
`Scanner.Takes` lists these steps with what leads to each, and
`feed_eq_ok_iff_takes` says that the list is complete and exact; an invariant is
proved by going through it.

Owns: `Scanner.Takes`, the principle that a run preserves what every step
preserves.

Does not own: what is invariant (`Proofs.Scan.Invariant`).
-/

namespace BacklogTrace.Scanner

/-- The steps of a scan from a state on a line, to the state after it. -/
inductive Takes (scanner : Scanner) (state : ScanState) (line : Text) : ScanState → Prop
  | blank (nothing : content? line = none) : Takes scanner state line state
  | marker {content : Text} (read : content? line = some content)
      (marks : scanner.dialect.testMarker content = true) :
      Takes scanner state line (scanner.meetMarker (scanner.openClass state content) content)
  | items {content : Text} (read : content? line = some content)
      (found : scanner.lineItems content ≠ []) :
      Takes scanner state line
        { scanner.openClass state content with
          phase := (scanner.openClass state content).phase.addItems (scanner.lineItems content) }
  /-- No method is awaited, or none is declared. -/
  | idle {content : Text} (read : content? line = some content)
      (plain : scanner.dialect.testMarker content = false)
      (bare : scanner.lineItems content = [])
      (unmet : (scanner.openClass state content).phase.awaitingClass? = none ∨
        scanner.dialect.methodSignature content = .ok none) :
      Takes scanner state line (scanner.openClass state content)
  | method {content className method : Text} (read : content? line = some content)
      (plain : scanner.dialect.testMarker content = false)
      (bare : scanner.lineItems content = [])
      (awaited : (scanner.openClass state content).phase.awaitingClass? = some className)
      (declares : scanner.dialect.methodSignature content = .ok (some method)) :
      Takes scanner state line
        (scanner.meetMethod (scanner.openClass state content) className method)

variable {scanner : Scanner} {state next : ScanState} {line : Text}

theorem takes_of_feedLine {content : Text} (read : content? line = some content)
    (fed : scanner.feedLine state content = .ok next) : scanner.Takes state line next := by
  cases marker : scanner.dialect.testMarker content with
  | true =>
      rw [feedLine_of_marker scanner state marker] at fed
      rw [← Except.ok.inj fed]
      exact .marker read marker
  | false =>
      by_cases bare : scanner.lineItems content = []
      · rw [feedLine_of_plain scanner state marker bare, seekMethod] at fed
        split at fed
        · rename_i unawaited
          rw [← Except.ok.inj fed]
          exact .idle read marker bare (Or.inl unawaited)
        · rename_i className awaited
          split at fed
          · exact absurd fed (by simp)
          · rename_i undeclared
            rw [← Except.ok.inj fed]
            exact .idle read marker bare (Or.inr undeclared)
          · rename_i method declares
            rw [← Except.ok.inj fed]
            exact .method read marker bare awaited declares
      · rw [feedLine_of_lineItems scanner state bare] at fed
        rw [← Except.ok.inj fed]
        exact .items read bare

/-- A line leads from one state to another exactly when one of the steps does. -/
theorem feed_eq_ok_iff_takes :
    scanner.feed state line = .ok next ↔ scanner.Takes state line next := by
  rw [feed_eq_of_content?]
  constructor
  · intro fed
    cases read : content? line with
    | none =>
        rw [read] at fed
        rw [← Except.ok.inj fed]
        exact .blank read
    | some content =>
        rw [read] at fed
        exact takes_of_feedLine read fed
  · intro step
    cases step with
    | blank nothing => rw [nothing]
    | marker read marks =>
        rw [read]
        exact scanner.feedLine_of_marker state marks
    | items read found =>
        rw [read]
        exact scanner.feedLine_of_lineItems state found
    | idle read plain bare unmet =>
        rw [read]
        refine (scanner.feedLine_of_plain state plain bare).trans ?_
        rcases unmet with unawaited | undeclared
        · exact scanner.seekMethod_of_idle unawaited _
        · rw [seekMethod, undeclared]
          split <;> rfl
    | method read plain bare awaited declares =>
        rw [read]
        refine (scanner.feedLine_of_plain state plain bare).trans ?_
        rw [seekMethod, awaited, declares]

/-- A run preserves what every step preserves. -/
theorem feedAll_preserves {holds : ScanState → Prop}
    (step : ∀ {before after : ScanState} {line : Text},
      holds before → scanner.Takes before line after → holds after)
    {lines : List Text} (first : holds state) (run : scanner.feedAll state lines = .ok next) :
    holds next := by
  induction lines generalizing state with
  | nil =>
      rw [← Except.ok.inj run]
      exact first
  | cons line lines inductionHypothesis =>
      cases fed : scanner.feed state line with
      | error fault =>
          rw [feedAll_cons_of_error scanner fed] at run
          exact absurd run (by simp)
      | ok after =>
          rw [feedAll_cons_of_ok scanner fed] at run
          exact inductionHypothesis (step first (feed_eq_ok_iff_takes.1 fed)) run

end BacklogTrace.Scanner
