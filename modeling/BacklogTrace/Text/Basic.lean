import BacklogTrace.Sequence
import BacklogTrace.Text.Blank

/-!
Contract: text as a list of characters, with the layout operations that every
recognizer starts from.

A rule about a line reads it from one end or cuts it at a character, and both
are recursion on a list; so text is a list here, and strings appear only where
a program meets the outside.

Owns: trimming, words, lines, ASCII case folding.

Does not own: bytes and their decoding (`Utf8`), which layout is (`isBlank`).
-/

namespace BacklogTrace

/-- A line, a name or a whole document. -/
abbrev Text := List Char

namespace Text

def trimStart (text : Text) : Text :=
  text.dropWhile isBlank

def trimEnd (text : Text) : Text :=
  Sequence.dropEndWhile isBlank text

def trim (text : Text) : Text :=
  trimEnd (trimStart text)

def isAllBlank (text : Text) : Bool :=
  text.all isBlank

/-- The maximal runs without layout, in order. -/
def words (text : Text) : List Text :=
  (Sequence.splitWhere isBlank text).filter fun piece => !piece.isEmpty

/-- A line that ended in a line feed, without the carriage return before it. -/
def dropCarriageReturn (line : Text) : Text :=
  match line.getLast? with
  | some '\r' => line.dropLast
  | _ => line

/-- The lines of a list of pieces between line feeds: only the last piece was
not ended by one, and it is no line when it is empty. -/
def linesOfPieces : List Text → List Text
  | [] => []
  | [last] => if last.isEmpty then [] else [last]
  | piece :: pieces => dropCarriageReturn piece :: linesOfPieces pieces

/-- The lines of a document. A line ends in a line feed, or in a carriage
return and a line feed; the last may end with the document. -/
def lines (text : Text) : List Text :=
  linesOfPieces (Sequence.splitOn '\n' text)

/-- Equality of texts up to the case of ASCII letters. -/
def eqIgnoringAsciiCase (left right : Text) : Bool :=
  left.map Char.toLower == right.map Char.toLower

/-- A number in decimal digits. -/
def ofNat (number : Nat) : Text :=
  Nat.toDigits 10 number

end Text

end BacklogTrace
