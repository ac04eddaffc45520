import BacklogTrace.FileSearch.Basic

/-!
Contract: the choice of files by patterns.

A filter includes and excludes. Without an including pattern all is included; an
excluding pattern wins. A backslash in a pattern is a slash. The including patterns
are read one by one and compiled before any excluding one is read. The first that
cannot be read is reported as it was given; patterns that cannot be compiled
together are not told apart.

Owns: `Glob.Filter`, `Glob.Filter.read`, `Glob.Filter.admits`, `Glob.BadPattern`.

Does not own: what is a pattern, and what it matches (`FileSearch`).
-/

namespace BacklogTrace.Glob

/-- What is wrong with some patterns. -/
inductive BadPattern where
  /-- A text is no pattern. -/
  | malformed (text : Text)
  /-- The patterns cannot be compiled together. -/
  | uncompiled
deriving DecidableEq, Repr

def BadPattern.message : BadPattern → Text
  | .malformed text => "Invalid glob pattern '".toList ++ text ++ ['\'']
  | .uncompiled => "Failed to build glob set".toList

structure Filter where
  /-- Whether there is no including pattern. -/
  includesAll : Bool
  included : Bytes → Bool
  excluded : Bytes → Bool

/-- A pattern with slashes for backslashes. -/
def slashed (text : Text) : Text :=
  text.map fun character => if character = '\\' then '/' else character

def compile [FileSearch] (texts : List Text) : Except BadPattern (Bytes → Bool) :=
  match texts.find? fun text => !FileSearch.isPattern (slashed text) with
  | some text => .error (.malformed text)
  | none =>
      match FileSearch.compile? (texts.map slashed) with
      | none => .error .uncompiled
      | some isMatch => .ok isMatch

def Filter.read [FileSearch] (included excluded : List Text) : Except BadPattern Filter :=
  match compile included with
  | .error bad => .error bad
  | .ok includes =>
      match compile excluded with
      | .error bad => .error bad
      | .ok excludes => .ok ⟨included.isEmpty, includes, excludes⟩

def Filter.admits (filter : Filter) (path : Bytes) : Bool :=
  (filter.includesAll || filter.included path) && !filter.excluded path

end BacklogTrace.Glob
