import BacklogTrace.Dialect.Basic
import BacklogTrace.Scan.Phase

/-!
Contract: the scan of one file, one line after the other.

`Scanner.feed` is the step: it reads a line, without its line ending, and either
changes the phase, sets the marker, or meets a method signature. A blank line
changes nothing. A line that opens a class is read further, so one line can open
a class and list items for its first method. A marker line and a line with items
are read no further.

A method is a test when a marker waits or its name begins with `test`. The
marker and the items of the method level are used up by the first signature
that the scan looks for; the items of the class level stay.

Owns: `Scanner`, `ScanState`, `Scanner.feed`, `Scanner.feedAll`.

Does not own: how a file is cut into lines (`Scan.Input`).
-/

namespace BacklogTrace

abbrev Extractor := Text → List Item

/-- What is fixed during the scan of one file. -/
structure Scanner where
  dialect : Dialect
  extractor : Extractor
  fileUrl : Text

structure ScanState where
  phase : Phase
  /-- Whether the next method is known to be a test. -/
  marked : Bool
  records : List Record
deriving DecidableEq, Repr

namespace ScanState

def start : ScanState := ⟨.outside, false, []⟩

end ScanState

namespace Scanner

/-- The line without the line feeds and carriage returns at its end. -/
def dropLineEnding (line : Text) : Text :=
  Sequence.dropEndWhile (fun character => character == '\n' || character == '\r') line

def isTestName (method : Text) : Bool :=
  "test".toList.isPrefixOf method

def recordOf (test : TestMethod) (items : List Item) : List Record :=
  if items.isEmpty then [] else [⟨test, items⟩]

/-- The records of a method: first those of the class level. -/
def recordsOf
    (scanner : Scanner)
    (state : ScanState)
    (className method : Text) :
    List Record :=
  if state.marked || isTestName method then
    recordOf ⟨scanner.fileUrl, className, method⟩ state.phase.classItems ++
      recordOf ⟨scanner.fileUrl, className, method⟩ state.phase.methodItems
  else
    []

/-- Meets the signature of a method in a class. -/
def meetMethod
    (scanner : Scanner)
    (state : ScanState)
    (className method : Text) :
    ScanState where
  phase := .inClass className state.phase.classItems
  marked := false
  records := state.records ++ scanner.recordsOf state className method

/-- Looks for a method signature, where waiting items could use one. -/
def seekMethod (scanner : Scanner) (state : ScanState) (line : Text) :
    Except ScanFault ScanState :=
  match state.phase.awaitingClass? with
  | none => .ok state
  | some className =>
      match scanner.dialect.methodSignature line with
      | .error fault => .error fault
      | .ok none => .ok state
      | .ok (some method) => .ok (scanner.meetMethod state className method)

def openClass (scanner : Scanner) (state : ScanState) (line : Text) : ScanState :=
  match scanner.dialect.classStart line with
  | none => state
  | some className => { state with phase := state.phase.enterClass className }

/-- Meets a test marker: it counts inside a class, on a line that opens none. -/
def meetMarker (scanner : Scanner) (state : ScanState) (line : Text) : ScanState :=
  if (scanner.dialect.classStart line).isNone && state.phase.className?.isSome then
    { state with marked := true }
  else
    state

/-- Reads a line without its ending that is not blank. -/
def feedLine (scanner : Scanner) (state : ScanState) (line : Text) :
    Except ScanFault ScanState :=
  let opened := scanner.openClass state line
  if scanner.dialect.testMarker line then
    .ok (scanner.meetMarker opened line)
  else if (scanner.extractor line).isEmpty then
    scanner.seekMethod opened line
  else
    .ok { opened with phase := opened.phase.addItems (scanner.extractor line) }

def feed (scanner : Scanner) (state : ScanState) (line : Text) :
    Except ScanFault ScanState :=
  if Text.isAllBlank (dropLineEnding line) then
    .ok state
  else
    scanner.feedLine state (dropLineEnding line)

def feedAll (scanner : Scanner) (state : ScanState) : List Text → Except ScanFault ScanState
  | [] => .ok state
  | line :: lines =>
      match scanner.feed state line with
      | .error fault => .error fault
      | .ok next => scanner.feedAll next lines

theorem feedAll_append (scanner : Scanner) (state : ScanState) (first second : List Text) :
    scanner.feedAll state (first ++ second) =
      (scanner.feedAll state first).bind fun next => scanner.feedAll next second := by
  induction first generalizing state with
  | nil => rfl
  | cons line lines inductionHypothesis =>
      simp only [List.cons_append, feedAll]
      cases scanner.feed state line with
      | error fault => rfl
      | ok next => exact inductionHypothesis next

end Scanner

end BacklogTrace
