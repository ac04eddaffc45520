import BacklogTrace.Proofs.Dialect.BraceSignature
import BacklogTrace.Proofs.Scan.Attribution
import BacklogTrace.Proofs.Scan.Content

/-!
Contract: exactly when a scan faults.

A scan faults on the first line whose step faults, and a step faults only where
it asks for a signature. It asks on a line that is no marker line and has no
items, inside a class, while items of either level wait; what waits is seen
after the line has opened its class. ABAP answers on every line. Java faults on
such a line exactly where the name would begin inside a character.

Owns: `Scanner.SeeksAt`, the fault of a run as the fault of one of its lines.

Does not own: which lines a signature can be read from
(`Proofs.Dialect.BraceSignature`).
-/

namespace BacklogTrace.Scanner

variable (scanner : Scanner)

/-! ## Runs -/

/-- A run faults exactly where a line faults in the state to which the lines before
it lead. -/
theorem feedAll_eq_error_iff (state : ScanState) (lines : List Text) (fault : ScanFault) :
    scanner.feedAll state lines = .error fault ↔
      ∃ place line before, lines[place]? = some line ∧
        scanner.feedAll state (lines.take place) = .ok before ∧
          scanner.feed before line = .error fault := by
  induction lines generalizing state with
  | nil => simp [feedAll]
  | cons head tail inductionHypothesis =>
      cases fed : scanner.feed state head with
      | error first =>
          have stops := scanner.feedAll_cons_of_error fed
          rw [stops tail]
          constructor
          · intro same
            exact ⟨0, head, state, rfl, rfl, fed.trans same⟩
          · rintro ⟨place, line, before, standing, run, faults⟩
            cases place with
            | zero =>
                obtain rfl : head = line := Option.some.inj standing
                obtain rfl : state = before := Except.ok.inj run
                exact fed.symm.trans faults
            | succ place => exact absurd ((stops _).symm.trans run) (by simp)
      | ok next =>
          have goesOn := scanner.feedAll_cons_of_ok fed
          rw [goesOn tail, inductionHypothesis next]
          constructor
          · rintro ⟨place, line, before, standing, run, faults⟩
            exact ⟨place + 1, line, before, standing, (goesOn _).trans run, faults⟩
          · rintro ⟨place, line, before, standing, run, faults⟩
            cases place with
            | zero =>
                obtain rfl : head = line := Option.some.inj standing
                obtain rfl : state = before := Except.ok.inj run
                exact absurd (fed.symm.trans faults) (by simp)
            | succ place => exact ⟨place, line, before, standing, (goesOn _).symm.trans run, faults⟩

theorem scan_eq_error_iff (lines : List Text) (fault : ScanFault) :
    scanner.scan lines = .error fault ↔ scanner.feedAll .start lines = .error fault := by
  unfold scan
  cases scanner.feedAll .start lines <;> simp

/-! ## One line -/

theorem seekMethod_eq_error_iff (state : ScanState) (line : Text) (fault : ScanFault) :
    scanner.seekMethod state line = .error fault ↔
      state.phase.awaitingClass?.isSome = true ∧
        scanner.dialect.methodSignature line = .error fault := by
  unfold seekMethod
  cases state.phase.awaitingClass? with
  | none => simp
  | some className =>
      cases scanner.dialect.methodSignature line with
      | error other => simp
      | ok method? => cases method? <;> simp

theorem feedLine_eq_error_iff (state : ScanState) (line : Text) (fault : ScanFault) :
    scanner.feedLine state line = .error fault ↔
      scanner.dialect.testMarker line = false ∧ scanner.extractor line = [] ∧
        (scanner.openClass state line).phase.awaitingClass?.isSome = true ∧
          scanner.dialect.methodSignature line = .error fault := by
  unfold feedLine
  dsimp only
  cases scanner.dialect.testMarker line with
  | true => simp
  | false =>
      cases scanner.extractor line with
      | nil => simp [seekMethod_eq_error_iff]
      | cons item items => simp

variable {scanner} {lines : List Text} {place : Nat} {line : Text} {before : ScanState}

theorem lineAt?_eq_bind_content? : lineAt? lines place = lines[place]?.bind content? := by
  unfold lineAt?
  cases lines[place]? with
  | none => rfl
  | some line =>
      unfold content?
      cases blank : Text.isAllBlank (dropLineEnding line) <;> simp [blank]

variable (scanner lines place line before) in
/-- The scan looks for a signature on a line: it is reached without a fault, it is
neither a marker line nor a line with items, and something waits inside a class
once the line has opened its own. -/
structure SeeksAt : Prop where
  standing : lineAt? lines place = some line
  run : scanner.feedAll .start (lines.take place) = .ok before
  unmarking : scanner.dialect.testMarker line = false
  bare : scanner.extractor line = []
  inside : scanner.IsInside lines place
  waiting : (scanner.openClass before line).phase.classItems ≠ [] ∨
    (scanner.openClass before line).phase.methodItems ≠ []

/-- In a state that a scan leads to, a method is awaited exactly inside a class
and while something waits. -/
theorem isSome_awaitingClass?_openClass_iff (standing : lineAt? lines place = some line)
    (run : scanner.feedAll .start (lines.take place) = .ok before) :
    (scanner.openClass before line).phase.awaitingClass?.isSome = true ↔
      scanner.IsInside lines place ∧
        ((scanner.openClass before line).phase.classItems ≠ [] ∨
          (scanner.openClass before line).phase.methodItems ≠ []) := by
  have within : place < lines.length := by
    have reached := standing
    rw [lineAt?_eq_bind_content?, Option.bind_eq_some_iff] at reached
    obtain ⟨_, here, -⟩ := reached
    exact (List.getElem?_eq_some_iff.1 here).1
  have described := describes_feedAll_take (Nat.le_of_lt within) run
  have opened := describesOpened_openClass described standing
  rw [Phase.awaitingClass?_of_isSettled opened.settled, ← opened.isSome_className?]
  by_cases nothing : (scanner.openClass before line).phase.classItems = [] ∧
      (scanner.openClass before line).phase.methodItems = []
  · simp [nothing.1, nothing.2]
  · rw [if_neg nothing, iff_self_and]
    intro _
    rwa [Classical.not_and_iff_not_or_not] at nothing

variable (scanner lines) in
/-- A scan faults exactly where it looks for a signature on a line on which the
dialect faults. -/
theorem scan_eq_error_iff_exists_seeksAt (fault : ScanFault) :
    scanner.scan lines = .error fault ↔
      ∃ place line before, scanner.SeeksAt lines place line before ∧
        scanner.dialect.methodSignature line = .error fault := by
  rw [scan_eq_error_iff, feedAll_eq_error_iff]
  constructor
  · rintro ⟨place, line, before, reached, run, faults⟩
    rw [feed_eq_of_content?] at faults
    cases read : content? line with
    | none =>
        rw [read] at faults
        exact absurd faults (by simp)
    | some content =>
        rw [read] at faults
        obtain ⟨unmarking, bare, awaited, answer⟩ :=
          (scanner.feedLine_eq_error_iff before content fault).1 faults
        have standing : lineAt? lines place = some content := by
          rw [lineAt?_eq_bind_content?, reached, Option.bind_some, read]
        obtain ⟨inside, waiting⟩ := (isSome_awaitingClass?_openClass_iff standing run).1 awaited
        exact ⟨place, content, before, ⟨standing, run, unmarking, bare, inside, waiting⟩, answer⟩
  · rintro ⟨place, content, before, seeks, answer⟩
    have standing := seeks.standing
    rw [lineAt?_eq_bind_content?, Option.bind_eq_some_iff] at standing
    obtain ⟨line, reached, read⟩ := standing
    have awaited := (isSome_awaitingClass?_openClass_iff seeks.standing seeks.run).2
      ⟨seeks.inside, seeks.waiting⟩
    refine ⟨place, line, before, reached, seeks.run, ?_⟩
    rw [feed_eq_of_content?, read]
    exact (scanner.feedLine_eq_error_iff before content fault).2
      ⟨seeks.unmarking, seeks.bare, awaited, answer⟩

/-! ## Languages -/

/-- A scan of ABAP never faults. A scan of Java faults exactly where it looks for a
signature on a line whose name would begin inside a character, and finds records
in every other case. -/
theorem scan_faults_iff (fileUrl : Text) (lines : List Text) :
    (∃ records, (ofLanguage .abap fileUrl).scan lines = .ok records) ∧
      ((ofLanguage .java fileUrl).scan lines = .error .splitCharacter ↔
        ∃ place line before, (ofLanguage .java fileUrl).SeeksAt lines place line before ∧
          BraceSignature.SplitsCharacter line) ∧
      ((∃ records, (ofLanguage .java fileUrl).scan lines = .ok records) ↔
        ¬ ∃ place line before, (ofLanguage .java fileUrl).SeeksAt lines place line before ∧
          BraceSignature.SplitsCharacter line) := by
  have answers : ∀ line, (ofLanguage .java fileUrl).dialect.methodSignature line =
      .error .splitCharacter ↔ BraceSignature.SplitsCharacter line :=
    fun _ => BraceSignature.read_eq_error_iff
  have faults : (ofLanguage .java fileUrl).scan lines = .error .splitCharacter ↔
      ∃ place line before, (ofLanguage .java fileUrl).SeeksAt lines place line before ∧
        BraceSignature.SplitsCharacter line := by
    rw [scan_eq_error_iff_exists_seeksAt]
    simp only [answers]
  refine ⟨?_, faults, ?_⟩
  · have total : (ofLanguage .abap fileUrl).IsTotal := fun _ => ⟨_, rfl⟩
    exact exists_scan_eq_ok total lines
  · rw [← faults]
    cases (ofLanguage .java fileUrl).scan lines with
    | ok records => simp
    | error fault =>
        cases fault
        simp

/-- A space that cannot be broken stands before the name of an awaited method. -/
example : (ofLanguage .java "A.java".toList).scan
    ["class A \x7b".toList, "// Trace(Jira:A-1)".toList, "void\u00a0run() \x7b".toList] =
      .error .splitCharacter := rfl

end BacklogTrace.Scanner
