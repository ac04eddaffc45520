import BacklogTrace.Dialect.BraceSignature

/-!
Contract: Java unit tests, whose classes are opened by the word `class`, whose
tests are marked by `@Test` and whose methods have brace signatures.

A line that begins like a comment opens no class. `@Test` has to end there:
longer annotations and qualified ones are other annotations.

Owns: `Dialect.java`.

Does not own: `BraceSignature.read`, the only recognizer that can fault.
-/

namespace BacklogTrace.Dialect

/-- Whether a line begins as a comment does, layout aside. -/
def beginsComment (line : Text) : Bool :=
  "//".toList.isPrefixOf line || "*".toList.isPrefixOf line || "/*".toList.isPrefixOf line

/-- The word after the first word `class`. -/
def wordAfterClass? : List Text → Option Text
  | [] => none
  | word :: rest => if word = "class".toList then rest.head? else wordAfterClass? rest

/-- A class is named by the identifier characters that begin the word after
`class`. -/
def javaClassStart (line : Text) : Option Text :=
  if beginsComment (Text.trimStart line) then
    none
  else
    match wordAfterClass? (Text.words line) with
    | none => none
    | some word =>
        let name := word.takeWhile Text.isIdentifierCharacter
        if name.isEmpty then none else some name

/-- A test is marked by `@Test` at the start of a line, unless the annotation's
name goes on. -/
def javaTestMarker (line : Text) : Bool :=
  match "@Test".toList.isPrefixOf? (Text.trimStart line) with
  | none => false
  | some [] => true
  | some (next :: _) => !(Text.isIdentifierCharacter next || next == '.')

def java : Dialect where
  classStart := javaClassStart
  testMarker := javaTestMarker
  methodSignature := BraceSignature.read

end BacklogTrace.Dialect
