import BacklogTrace.Text.Basic

/-!
Contract: JSON values, with numbers as they are written and members in order.

Owns: `Json`, `Json.isSpace`, `Json.hexDigit`, `Json.hexValue?`.

Does not own: the written form (`Json.Printer`, `Json.Reader`), what a number
stands for (`Json.Number`).
-/

namespace BacklogTrace

inductive Json where
  | null
  | boolean (value : Bool)
  /-- A number, by its written form. -/
  | number (literal : Text)
  | string (content : Text)
  | array (elements : List Json)
  | object (members : List (Text × Json))
deriving Repr, Inhabited

namespace Json

/-- The four characters that may stand between tokens. -/
def isSpace (character : Char) : Bool :=
  character == ' ' || character == '\t' || character == '\n' || character == '\r'

def skipSpace (text : Text) : Text :=
  text.dropWhile isSpace

/-- The digit of a number below sixteen, in lower case. -/
def hexDigit (number : Nat) : Char :=
  if number < 10 then Char.ofNat ('0'.toNat + number) else Char.ofNat ('a'.toNat + (number - 10))

def hexValue? (character : Char) : Option Nat :=
  if '0' ≤ character ∧ character ≤ '9' then
    some (character.toNat - '0'.toNat)
  else if 'a' ≤ character ∧ character ≤ 'f' then
    some (character.toNat - 'a'.toNat + 10)
  else if 'A' ≤ character ∧ character ≤ 'F' then
    some (character.toNat - 'A'.toNat + 10)
  else
    none

theorem hexValue?_hexDigit : ∀ number < 16, hexValue? (hexDigit number) = some number := by
  decide

end Json

end BacklogTrace
