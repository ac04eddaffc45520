import BacklogTrace.Glob.Matching
import BacklogTrace.Glob.Reader

/-!
Contract: patterns that are compiled together.

A path is matched if some pattern matches it. A pattern is compiled by way of a
regular expression, in which groups, classes, repetitions, alternations and
sequences nest; an expression that is nested too deeply is not compiled. That
happens to patterns with very many braces around one another.

Owns: `Glob.readPattern?`, `Glob.Pattern.nesting`, `Glob.compile?`.

Does not own: what one pattern matches (`Glob.Matching`); how large an expression
may get, to which there is a limit too.
-/

namespace BacklogTrace.Glob

/-- Reads a pattern in which a star matches slashes too. -/
def readPattern? (text : Text) : Option Pattern :=
  match readTokens false text with
  | .error _ => none
  | .ok tokens => some ⟨tokens, false⟩

/-! ## Nesting -/

/-- A piece of an expression: of how many parts it is a sequence, and how deeply the
deepest of them is nested. -/
structure Shape where
  parts : Nat
  depth : Nat
deriving DecidableEq, Repr

def Shape.append (first second : Shape) : Shape :=
  ⟨first.parts + second.parts, max first.depth second.depth⟩

/-- A sequence nests its parts, unless it is a single one. -/
def Shape.nesting (shape : Shape) : Nat :=
  match shape.parts with
  | 0 => 0
  | 1 => shape.depth
  | _ + 2 => shape.depth + 1

/-- The shape of a class: between two ends that take several bytes, or with several
ranges, it is a union. -/
def shapeOfClass (ranges : List (Char × Char)) : Shape :=
  let size := fun character => (String.utf8EncodeChar character).length
  let items := ranges.foldl (fun items range => items +
    if range.1 = range.2 then size range.1 else size range.1 + size range.2 - 1) 0
  ⟨1, if items ≤ 1 then 1 else 2⟩

/-- The shape of a group, by how deeply its alternatives are nested. -/
def shapeOfGroup : List Nat → Shape
  | [] => ⟨0, 0⟩
  | [nesting] => ⟨1, nesting + 1⟩
  | nestings => ⟨1, nestings.foldl max 0 + 2⟩

mutual

def Token.shape : Token → Shape
  | .literal character => ⟨(String.utf8EncodeChar character).length, 0⟩
  | .anyByte => ⟨1, 0⟩
  | .anyRun => ⟨1, 1⟩
  | .leadingDirectories | .innerDirectories => ⟨1, 4⟩
  | .trailingEntries => ⟨2, 1⟩
  | .byteClass _ ranges => shapeOfClass ranges
  | .alternates branches => shapeOfGroup (nestingsOfBranches branches)

def shapeOfAll : List Token → Shape
  | [] => ⟨0, 0⟩
  | token :: tokens => token.shape.append (shapeOfAll tokens)

/-- How deeply the alternatives are nested that are not void. -/
def nestingsOfBranches : List (List Token) → List Nat
  | [] => []
  | branch :: branches =>
      if areVoid branch then
        nestingsOfBranches branches
      else
        (shapeOfAll branch).nesting :: nestingsOfBranches branches

end

/-- How deeply the expression of a pattern is nested: its parts stand between the
beginning and the end of the path. -/
def Pattern.nesting (pattern : Pattern) : Nat :=
  (shapeOfAll pattern.tokens).depth + 1

/-- How deeply an expression may be nested. -/
def nestingLimit : Nat := 250

/-! ## Compiling -/

def compile? (texts : List Text) : Option (Bytes → Bool) :=
  match texts.mapM readPattern? with
  | none => none
  | some patterns =>
      if patterns.all fun pattern => decide (pattern.nesting ≤ nestingLimit) then
        some fun path => patterns.any fun pattern => pattern.isMatch path
      else
        none

end BacklogTrace.Glob
