import BacklogTrace.Text.Basic

/-!
Contract: what a scan has to know about a programming language.

A dialect answers three questions about a single line and keeps nothing from
one line to the next: which class it opens, whether it marks a test, and which
method it declares. The last answer can fail, because a name is cut out of the
line at a byte.

Owns: `Dialect`, `ScanFault`.

Does not own: the dialects themselves, what the answers lead to (`Scan`).
-/

namespace BacklogTrace

inductive ScanFault where
  /-- A method name would begin inside a character. -/
  | splitCharacter
deriving DecidableEq, Repr

/-- The recognizers of a language, each for one line. -/
structure Dialect where
  /-- The name of the class whose definition the line opens. -/
  classStart : Text → Option Text
  /-- Whether the line marks the method after it, or its class, as a test. -/
  testMarker : Text → Bool
  /-- The name of the method whose signature the line is. -/
  methodSignature : Text → Except ScanFault (Option Text)

end BacklogTrace
