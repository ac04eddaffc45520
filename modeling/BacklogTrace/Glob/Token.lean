import BacklogTrace.Text.Basic

/-!
Contract: the parts of a pattern for paths.

Owns: `Glob.Token`, `Glob.Fault`, `Glob`.

Does not own: reading patterns (`Glob.Reader`), matching them (`Glob.Matching`).
-/

namespace BacklogTrace.Glob

inductive Token where
  | literal (character : Char)
  | anyByte
  | anyRun
  /-- Any number of directories, with the slash after each: two stars that begin
  a pattern. -/
  | leadingDirectories
  /-- Everything inside a directory: two stars that end a pattern. -/
  | trailingEntries
  /-- A slash, or any number of directories between slashes: two stars inside a
  pattern. -/
  | innerDirectories
  /-- One byte of the given ranges, or of none of them. -/
  | byteClass (negated : Bool) (ranges : List (Char × Char))
  | alternates (branches : List (List Token))
deriving Repr, Inhabited

inductive Fault where
  | unclosedClass
  | invalidRange
  | unopenedAlternates
  | unclosedAlternates
  | danglingEscape
deriving DecidableEq, Repr

/-- A pattern, and whether a slash has to be written to be matched. -/
structure Pattern where
  tokens : List Token
  literalSeparator : Bool
deriving Repr, Inhabited

end BacklogTrace.Glob
