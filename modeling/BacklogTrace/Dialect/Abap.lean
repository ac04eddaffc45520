import BacklogTrace.Dialect.Basic

/-!
Contract: ABAP unit tests, whose classes are defined by
`CLASS name DEFINITION FOR TESTING.` and whose methods by `METHOD name.`

Keywords are upper case and end in a space. Nothing here can fault.

Owns: `Dialect.abap`.

Does not own: the pairing of a method's declaration with its implementation.
-/

namespace BacklogTrace.Dialect

def dropPeriods (word : Text) : Text :=
  Sequence.dropEndWhile (· == '.') word

/-- What follows a keyword at the start of a line. -/
def afterKeyword? (keyword line : Text) : Option Text :=
  keyword.isPrefixOf? (Text.trimStart line)

/-- A class is defined where `DEFINITION` stands among the words after its name;
that word itself names no class. -/
def abapClassStart (line : Text) : Option Text :=
  match afterKeyword? "CLASS ".toList line with
  | none => none
  | some rest =>
      match Text.words rest with
      | [] => none
      | name :: others =>
          if (others.any fun word => dropPeriods word == "DEFINITION".toList) &&
              name != "DEFINITION".toList then
            some name
          else
            none

/-- A test is marked by `FOR TESTING` after a space, anywhere on the line. -/
def abapTestMarker (line : Text) : Bool :=
  Sequence.occursIn " FOR TESTING".toList line

/-- A method is implemented where its name, less periods, follows `METHOD`. -/
def abapMethodSignature (line : Text) : Option Text :=
  match afterKeyword? "METHOD ".toList line with
  | none => none
  | some rest =>
      match Text.words rest with
      | [] => none
      | word :: _ => if (dropPeriods word).isEmpty then none else some (dropPeriods word)

def abap : Dialect where
  classStart := abapClassStart
  testMarker := abapTestMarker
  methodSignature line := .ok (abapMethodSignature line)

end BacklogTrace.Dialect
