import BacklogTrace.Dialect.Basic
import BacklogTrace.Text.Alphanumeric

/-!
Contract: method signatures of languages with braces, `... name(...) ... {`.

The last `{` of the line begins the body, the first `(` before it begins the
parameters, and the last word before that is the name. The name is taken to
begin one byte after the layout character before it, so layout of more than
one byte leaves no name to read: the line faults.

Owns: `BraceSignature.read`, `BraceSignature.head?`.

Does not own: which lines are asked, which the scan decides.
-/

namespace BacklogTrace.BraceSignature

/-- What stands before the first `(`, provided that a `{` follows it. -/
def head? (line : Text) : Option Text :=
  match Sequence.cutLast? (· == '{') line with
  | none => none
  | some (declaration, _, _) =>
      match Sequence.cutFirst? (· == '(') declaration with
      | none => none
      | some (head, _, _) => some head

/-- Whether a text is a nonempty run of identifier characters. -/
def isIdentifier (text : Text) : Bool :=
  !text.isEmpty && text.all Text.isIdentifierCharacter

def identifier? (name : Text) : Option Text :=
  if isIdentifier name then some name else none

/-- The name at the end of what stands before the parameters. -/
def nameOfHead (head : Text) : Except ScanFault (Option Text) :=
  match Sequence.cutLast? Text.isBlank (Text.trim head) with
  | none => .ok (identifier? (Text.trim head))
  | some (_, blank, name) =>
      if Text.isWideBlank blank then .error .splitCharacter else .ok (identifier? name)

def read (line : Text) : Except ScanFault (Option Text) :=
  match head? line with
  | none => .ok none
  | some head => nameOfHead head

end BacklogTrace.BraceSignature
