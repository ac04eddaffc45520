import BacklogTrace.Proofs.Scan.Position
import BacklogTrace.Scan.Input

/-!
Contract: a scan finds the records that the places of the lines determine.

The state after `count` lines is described by what the first `count` places
hold: the last class, the items outside and the pending items, whether a marker
stands unused, and the records so far. One line keeps the description; so every
run does, whether or not a later line faults.

Owns: `Scanner.Describes` and its preservation, the closed form of
`Scanner.scan`.

Does not own: what follows for markers (`Proofs.Scan.MarkerReach`) and for items
(`Proofs.Scan.MethodItems`).
-/

namespace BacklogTrace.Scanner

/-- What the places of the first `count` lines say about the state after them. -/
structure Describes (scanner : Scanner) (lines : List Text) (count : Nat)
    (state : ScanState) : Prop where
  className : state.phase.className? = scanner.lastClass? lines count
  classItems : state.phase.classItems = scanner.itemsOutside lines count
  methodItems : state.phase.methodItems = scanner.pendingItems lines count
  marked : state.marked = true ↔ scanner.IsMarked lines count
  records : state.records = (List.range count).flatMap (scanner.recordsAt lines)
  settled : state.phase.IsSettled

/-- The same within a line, after its class has been opened and before anything
else on it is read. -/
structure DescribesOpened (scanner : Scanner) (lines : List Text) (place : Nat)
    (state : ScanState) : Prop where
  className : state.phase.className? = scanner.lastClass? lines (place + 1)
  classItems : state.phase.classItems = scanner.itemsOutside lines place
  methodItems : state.phase.methodItems = scanner.waitingItems lines place
  marked : state.marked = true ↔ scanner.IsMarked lines place
  records : state.records = (List.range place).flatMap (scanner.recordsAt lines)
  settled : state.phase.IsSettled

variable {scanner : Scanner} {lines : List Text} {place : Nat} {state next : ScanState}
  {line : Text}

theorem describes_start : scanner.Describes lines 0 .start where
  className := rfl
  classItems := rfl
  methodItems := rfl
  marked := ⟨fun marked => absurd marked (by decide), fun ⟨_, before, _⟩ => absurd before (by omega)⟩
  records := rfl
  settled := trivial

/-! ## Places without a signature -/

theorem not_consumes_of_signatureAt?_eq_none (unsigned : scanner.signatureAt? lines place = none) :
    ¬ scanner.Consumes lines place := by
  intro consumes
  have signed := consumes.1
  rw [unsigned] at signed
  exact absurd signed (by decide)

theorem recordsAt_of_not_consumes (idle : ¬ scanner.Consumes lines place) :
    scanner.recordsAt lines place = [] := by
  unfold recordsAt
  split
  · rw [if_neg fun consumed => idle consumed.1]
  · rfl

theorem records_succ_of_not_consumes (idle : ¬ scanner.Consumes lines place) :
    (List.range (place + 1)).flatMap (scanner.recordsAt lines) =
      (List.range place).flatMap (scanner.recordsAt lines) := by
  simp [List.range_succ, recordsAt_of_not_consumes idle]

/-! ## Opening a class -/

theorem describesOpened_openClass (described : scanner.Describes lines place state)
    (standing : lineAt? lines place = some line) :
    scanner.DescribesOpened lines place (scanner.openClass state line) where
  className := by
    rw [className?_openClass, described.className, lastClass?_succ]
    simp [classAt?, standing]
  classItems := by rw [classItems_openClass, described.classItems]
  methodItems := by
    rw [methodItems_openClass, described.methodItems, waitingItems_eq]
    simp [classAt?, standing]
  marked := by rw [marked_openClass, described.marked]
  records := by rw [records_openClass, described.records]
  settled := isSettled_openClass scanner described.settled line

namespace DescribesOpened

/-- A place without items, a marker line and a consuming signature leaves
everything, since nothing waits for a signature that does not consume. -/
theorem describes_of_idle (opened : scanner.DescribesOpened lines place state)
    (bare : scanner.itemsAt lines place = []) (unmarking : ¬ scanner.SetsMarkerAt lines place)
    (idle : ¬ scanner.Consumes lines place)
    (unused : (scanner.signatureAt? lines place).isSome = true →
      scanner.waitingItems lines place = []) :
    scanner.Describes lines (place + 1) state := by
  refine ⟨opened.className, ?_, ?_, ?_, ?_, opened.settled⟩
  · rw [opened.classItems, itemsOutside_succ, bare, List.append_nil, ite_self]
  · rw [opened.methodItems, pendingItems_succ, bare, ite_self, List.append_nil]
    split
    · rename_i signed
      exact unused signed
    · rfl
  · rw [opened.marked, isMarked_succ]
    simp [unmarking, idle]
  · rw [opened.records, records_succ_of_not_consumes idle]

theorem waitingItems_of_not_isInside (opened : scanner.DescribesOpened lines place state)
    (outside : ¬ scanner.IsInside lines place) : scanner.waitingItems lines place = [] := by
  rw [← opened.methodItems]
  apply Phase.methodItems_of_className?_eq_none
  rw [opened.className, ← Option.not_isSome_iff_eq_none, isSome_lastClass?_succ]
  exact outside

/-- A signature is awaited exactly where a signature line would consume. -/
theorem awaitingClass?_eq (opened : scanner.DescribesOpened lines place state)
    (within : place < lines.length) :
    state.phase.awaitingClass? =
      if scanner.IsInside lines place ∧
          (scanner.classLevelItems lines ≠ [] ∨ scanner.waitingItems lines place ≠ []) then
        scanner.lastClass? lines (place + 1)
      else
        none := by
  rw [Phase.awaitingClass?_of_isSettled opened.settled, opened.className, opened.classItems,
    opened.methodItems]
  by_cases inside : scanner.IsInside lines place
  · rw [itemsOutside_eq_classLevelItems inside within]
    by_cases empty : scanner.classLevelItems lines = [] ∧ scanner.waitingItems lines place = []
    · simp [empty.1, empty.2]
    · rw [if_neg empty, if_pos]
      rw [Classical.not_and_iff_not_or_not] at empty
      exact ⟨inside, empty⟩
  · have closed : scanner.lastClass? lines (place + 1) = none := by
      rw [← Option.not_isSome_iff_eq_none, isSome_lastClass?_succ]
      exact inside
    simp [closed]

theorem isSome_className? (opened : scanner.DescribesOpened lines place state) :
    state.phase.className?.isSome = true ↔ scanner.IsInside lines place := by
  rw [opened.className, isSome_lastClass?_succ]

/-! ## The three kinds of line -/

theorem describes_meetMarker (opened : scanner.DescribesOpened lines place state)
    (standing : lineAt? lines place = some line)
    (marker : scanner.dialect.testMarker line = true) :
    scanner.Describes lines (place + 1) (scanner.meetMarker state line) := by
  have bare : scanner.itemsAt lines place = [] := by simp [itemsAt, standing, lineItems, marker]
  have unsigned : scanner.signatureAt? lines place = none := by
    simp [signatureAt?, standing, marker]
  have idle := not_consumes_of_signatureAt?_eq_none unsigned
  have sets : scanner.SetsMarkerAt lines place ↔
      (scanner.dialect.classStart line).isNone = true ∧
        state.phase.className?.isSome = true := by
    rw [opened.isSome_className?]
    simp [SetsMarkerAt, classAt?, marksAt, standing, marker, and_comm]
  refine ⟨?_, ?_, ?_, ?_, ?_, ?_⟩
  · rw [phase_meetMarker, opened.className]
  · rw [phase_meetMarker, opened.classItems, itemsOutside_succ, bare, List.append_nil, ite_self]
  · rw [phase_meetMarker, opened.methodItems, pendingItems_succ, unsigned, bare]
    simp
  · rw [isMarked_succ, sets, ← opened.marked]
    unfold meetMarker
    by_cases meets : (scanner.dialect.classStart line).isNone = true ∧
        state.phase.className?.isSome = true
    · simp [meets.1, meets.2]
    · rw [if_neg (by rwa [Bool.and_eq_true])]
      simp only [meets, false_or, idle, not_false_eq_true, and_true]
  · rw [records_meetMarker, opened.records, records_succ_of_not_consumes idle]
  · rw [phase_meetMarker]
    exact opened.settled

theorem describes_addItems (opened : scanner.DescribesOpened lines place state)
    (standing : lineAt? lines place = some line) (found : scanner.lineItems line ≠ []) :
    scanner.Describes lines (place + 1)
      { state with phase := state.phase.addItems (scanner.lineItems line) } := by
  have items : scanner.itemsAt lines place = scanner.lineItems line := by
    simp [itemsAt, standing]
  have unsigned : scanner.signatureAt? lines place = none := by
    simp [signatureAt?, standing, signature?_of_lineItems scanner found]
  have idle := not_consumes_of_signatureAt?_eq_none unsigned
  have unmarking : ¬ scanner.SetsMarkerAt lines place := by
    rintro ⟨-, -, marks⟩
    simp only [marksAt, standing, Option.any_some] at marks
    simp [lineItems, marks] at found
  refine ⟨?_, ?_, ?_, ?_, ?_, ?_⟩
  · rw [Phase.className?_addItems, opened.className]
  · rw [Phase.classItems_addItems, itemsOutside_succ, opened.classItems, items]
    simp only [opened.isSome_className?]
  · rw [Phase.methodItems_addItems, pendingItems_succ, opened.methodItems, items, unsigned]
    by_cases inside : scanner.IsInside lines place
    · simp [opened.isSome_className?, inside]
    · simp [opened.isSome_className?, inside, opened.waitingItems_of_not_isInside inside]
  · rw [opened.marked, isMarked_succ]
    simp [unmarking, idle]
  · rw [opened.records, records_succ_of_not_consumes idle]
  · exact Phase.isSettled_addItems opened.settled found

/-- What stands on a line on which a signature is looked for. -/
structure IsPlainAt (scanner : Scanner) (lines : List Text) (place : Nat) (line : Text) :
    Prop where
  standing : lineAt? lines place = some line
  unmarking : scanner.dialect.testMarker line = false
  bare : scanner.lineItems line = []

theorem IsPlainAt.itemsAt (plain : IsPlainAt scanner lines place line) :
    scanner.itemsAt lines place = [] := by
  simp [Scanner.itemsAt, plain.standing, plain.bare]

theorem IsPlainAt.signatureAt? (plain : IsPlainAt scanner lines place line) :
    scanner.signatureAt? lines place = scanner.declared? line := by
  simp [Scanner.signatureAt?, signature?, plain.standing, plain.unmarking, plain.bare]

theorem IsPlainAt.not_setsMarkerAt (plain : IsPlainAt scanner lines place line) :
    ¬ scanner.SetsMarkerAt lines place := by
  simp [SetsMarkerAt, marksAt, plain.standing, plain.unmarking]

theorem describes_meetMethod (opened : scanner.DescribesOpened lines place state)
    (plain : IsPlainAt scanner lines place line) (within : place < lines.length)
    {className method : Text} (awaited : state.phase.awaitingClass? = some className)
    (declared : scanner.declared? line = some method) :
    scanner.Describes lines (place + 1) (scanner.meetMethod state className method) := by
  have signed : scanner.signatureAt? lines place = some method := by
    rw [plain.signatureAt?, declared]
  rw [opened.awaitingClass?_eq within] at awaited
  split at awaited
  · rename_i waiting
    obtain ⟨inside, waiting⟩ := waiting
    have consumes : scanner.Consumes lines place := ⟨by simp [signed], inside, waiting⟩
    have outer := itemsOutside_eq_classLevelItems inside within
    refine ⟨awaited.symm, ?_, ?_, ?_, ?_, trivial⟩
    · change state.phase.classItems = _
      rw [opened.classItems, itemsOutside_succ, if_pos inside]
    · rw [pendingItems_succ, signed, plain.itemsAt]
      simp [meetMethod, Phase.methodItems]
    · rw [isMarked_succ]
      simp [meetMethod, plain.not_setsMarkerAt, consumes]
    · change state.records ++ scanner.recordsOf state className method = _
      rw [List.range_succ, List.flatMap_append, ← opened.records, List.flatMap_singleton]
      congr 1
      rw [recordsAt, awaited, signed]
      simp only [recordsOf, opened.classItems, opened.methodItems, outer, consumes, true_and]
      simp [isTestName, opened.marked]
  · exact absurd awaited (by simp)

theorem describes_seekMethod (opened : scanner.DescribesOpened lines place state)
    (plain : IsPlainAt scanner lines place line) (within : place < lines.length)
    (sought : scanner.seekMethod state line = .ok next) :
    scanner.Describes lines (place + 1) next := by
  cases awaited : state.phase.awaitingClass? with
  | none =>
      rw [seekMethod_of_idle scanner awaited] at sought
      rw [← Except.ok.inj sought]
      -- nothing is awaited because no class is open, or because nothing waits
      rw [opened.awaitingClass?_eq within] at awaited
      split at awaited
      · rename_i waiting
        have inside := isSome_lastClass?_succ.2 waiting.1
        rw [awaited] at inside
        exact absurd inside (by decide)
      · rename_i waiting
        refine opened.describes_of_idle plain.itemsAt plain.not_setsMarkerAt
          (fun consumes => waiting consumes.2) fun _ => ?_
        by_cases inside : scanner.IsInside lines place
        · exact Decidable.byContradiction fun some => waiting ⟨inside, Or.inr some⟩
        · exact opened.waitingItems_of_not_isInside inside
  | some className =>
      rcases seekMethod_eq_ok scanner awaited sought with
        ⟨undeclared, rfl⟩ | ⟨method, declared, rfl⟩
      · have unsigned : scanner.signatureAt? lines place = none := by
          rw [plain.signatureAt?, undeclared]
        refine opened.describes_of_idle plain.itemsAt plain.not_setsMarkerAt
          (not_consumes_of_signatureAt?_eq_none unsigned) ?_
        intro signed
        rw [unsigned] at signed
        exact absurd signed (by decide)
      · exact opened.describes_meetMethod plain within awaited declared

end DescribesOpened

/-! ## One line -/

/-- A blank line opens nothing and is idle. -/
theorem describes_of_nothing (described : scanner.Describes lines place state)
    (nothing : lineAt? lines place = none) : scanner.Describes lines (place + 1) state := by
  have unopened : scanner.classAt? lines place = none := by simp [classAt?, nothing]
  have unsigned : scanner.signatureAt? lines place = none := by simp [signatureAt?, nothing]
  have bare : scanner.itemsAt lines place = [] := by simp [itemsAt, nothing]
  have unmarking : ¬ scanner.SetsMarkerAt lines place := by
    simp [SetsMarkerAt, marksAt, nothing]
  have opened : scanner.DescribesOpened lines place state := by
    refine ⟨?_, described.classItems, ?_, described.marked, described.records, described.settled⟩
    · rw [described.className, lastClass?_succ, unopened, Option.none_or]
    · rw [described.methodItems, waitingItems_eq, unopened]
      rfl
  apply opened.describes_of_idle bare unmarking (not_consumes_of_signatureAt?_eq_none unsigned)
  intro signed
  rw [unsigned] at signed
  exact absurd signed (by decide)

theorem describes_feed (described : scanner.Describes lines place state)
    (within : lines[place]? = some line) (fed : scanner.feed state line = .ok next) :
    scanner.Describes lines (place + 1) next := by
  have bound : place < lines.length := (List.getElem?_eq_some_iff.1 within).1
  cases blank : Text.isAllBlank (dropLineEnding line) with
  | true =>
      have nothing : lineAt? lines place = none := by simp [lineAt?, within, blank]
      rw [feed_of_blank scanner state blank] at fed
      rw [← Except.ok.inj fed]
      exact describes_of_nothing described nothing
  | false =>
      have standing : lineAt? lines place = some (dropLineEnding line) := by
        simp [lineAt?, within, blank]
      have opened := describesOpened_openClass described standing
      rw [feed_of_not_blank scanner state blank] at fed
      cases marker : scanner.dialect.testMarker (dropLineEnding line) with
      | true =>
          rw [feedLine_of_marker scanner state marker] at fed
          rw [← Except.ok.inj fed]
          exact opened.describes_meetMarker standing marker
      | false =>
          by_cases bare : scanner.lineItems (dropLineEnding line) = []
          · rw [feedLine_of_plain scanner state marker bare] at fed
            exact opened.describes_seekMethod ⟨standing, marker, bare⟩ bound fed
          · rw [feedLine_of_lineItems scanner state bare] at fed
            rw [← Except.ok.inj fed]
            exact opened.describes_addItems standing bare

/-! ## Whole runs -/

/-- A run over the first lines of a file ends in a state that their places
describe. -/
theorem describes_feedAll_take {count : Nat} (within : count ≤ lines.length)
    (run : scanner.feedAll .start (lines.take count) = .ok state) :
    scanner.Describes lines count state := by
  -- on the lines read so far, from the start, since the description counts them from there
  induction count generalizing state with
  | zero =>
      rw [← Except.ok.inj run]
      exact describes_start
  | succ count inductionHypothesis =>
      have standing : lines[count]? = some lines[count] := List.getElem?_eq_getElem within
      rw [List.take_add_one, standing, feedAll_append] at run
      cases earlier : scanner.feedAll .start (lines.take count) with
      | error fault =>
          rw [earlier] at run
          exact absurd run (by simp [Except.bind])
      | ok before =>
          have described := inductionHypothesis (by omega) earlier
          rw [earlier] at run
          change scanner.feedAll before [lines[count]] = .ok state at run
          simp only [feedAll] at run
          cases fed : scanner.feed before lines[count] with
          | error fault =>
              rw [fed] at run
              exact absurd run (by simp)
          | ok after =>
              rw [fed] at run
              rw [← Except.ok.inj run]
              exact describes_feed described standing fed

theorem eq_attributed_of_scan {records : List Record} (found : scanner.scan lines = .ok records) :
    records = scanner.attributed lines := by
  unfold scan at found
  cases run : scanner.feedAll .start lines with
  | error fault =>
      rw [run] at found
      exact absurd found (by simp)
  | ok last =>
      rw [run] at found
      rw [← Except.ok.inj found]
      exact (describes_feedAll_take (Nat.le_refl _) (by rwa [List.take_length])).records

/-- A dialect that answers on every line. -/
def IsTotal (scanner : Scanner) : Prop :=
  ∀ line, ∃ method?, scanner.dialect.methodSignature line = .ok method?

theorem exists_seekMethod_eq_ok (total : scanner.IsTotal) (state : ScanState) (line : Text) :
    ∃ next, scanner.seekMethod state line = .ok next := by
  obtain ⟨method?, answer⟩ := total line
  unfold seekMethod
  cases state.phase.awaitingClass? with
  | none => exact ⟨_, rfl⟩
  | some className =>
      rw [answer]
      cases method? with
      | none => exact ⟨_, rfl⟩
      | some method => exact ⟨_, rfl⟩

theorem exists_feed_eq_ok (total : scanner.IsTotal) (state : ScanState) (line : Text) :
    ∃ next, scanner.feed state line = .ok next := by
  cases blank : Text.isAllBlank (dropLineEnding line) with
  | true => exact ⟨state, feed_of_blank scanner state blank⟩
  | false =>
      rw [feed_of_not_blank scanner state blank]
      unfold feedLine
      dsimp only
      split
      · exact ⟨_, rfl⟩
      · split
        · exact exists_seekMethod_eq_ok total _ _
        · exact ⟨_, rfl⟩

theorem exists_feedAll_eq_ok (total : scanner.IsTotal) (state : ScanState) (lines : List Text) :
    ∃ last, scanner.feedAll state lines = .ok last := by
  induction lines generalizing state with
  | nil => exact ⟨state, rfl⟩
  | cons line lines inductionHypothesis =>
      obtain ⟨next, fed⟩ := exists_feed_eq_ok total state line
      simp only [feedAll, fed]
      exact inductionHypothesis next

theorem exists_scan_eq_ok (total : scanner.IsTotal) (lines : List Text) :
    ∃ records, scanner.scan lines = .ok records := by
  obtain ⟨last, run⟩ := exists_feedAll_eq_ok total .start lines
  exact ⟨last.records, by rw [scan, run]⟩

/-- A scan with a total dialect, whatever the dialect and the extractor, returns
exactly the records that the places of the lines determine. -/
theorem scan_eq_ok_attributed (scanner : Scanner) (total : scanner.IsTotal)
    (lines : List Text) : scanner.scan lines = .ok (scanner.attributed lines) := by
  obtain ⟨last, run⟩ := exists_feedAll_eq_ok total .start lines
  have found : scanner.scan lines = .ok last.records := by simp [scan, run]
  rw [found, eq_attributed_of_scan found]

/-- A file with items of both levels, a method that uses a marker, and one that
is a test by its name alone. -/
theorem scan_eq_ok_attributed_abap :
    (ofLanguage .abap "a.abap".toList).IsTotal ∧
      (ofLanguage .abap "a.abap".toList).scan
          ["* Trace(Jira:A-1)".toList, "CLASS ltc DEFINITION FOR TESTING.".toList,
            "* Trace(Jira:A-2)".toList, "METHODS: first FOR TESTING.".toList,
            "METHOD first.".toList, "METHOD test_more.".toList, "METHOD other.".toList] =
        .ok
          [⟨⟨"a.abap".toList, "ltc".toList, "first".toList⟩, [⟨"A-1".toList, .jira⟩]⟩,
            ⟨⟨"a.abap".toList, "ltc".toList, "first".toList⟩, [⟨"A-2".toList, .jira⟩]⟩,
            ⟨⟨"a.abap".toList, "ltc".toList, "test_more".toList⟩, [⟨"A-1".toList, .jira⟩]⟩] := by
  have total : (ofLanguage .abap "a.abap".toList).IsTotal := fun _ => ⟨_, rfl⟩
  refine ⟨total, (scan_eq_ok_attributed _ total _).trans (congrArg Except.ok ?_)⟩
  decide +kernel

end BacklogTrace.Scanner
