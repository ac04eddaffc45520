import BacklogTrace.Ignore.Directory

/-!
Contract: what all ignore files together say about an entry of a walk.

The levels of a walk are the directories from the entry up to the root of the
walk; above them are the directories that hold the root. A level of the walk is
asked with the path of the entry as it is walked, one above with the path from
the top. For each kind of file the nearest level with an opinion decides, and
the kinds go in the order `.ignore`, `.gitignore`, exclude file. The two kinds
of a repository count only inside a working tree, and no further up than its
top.

Owns: `Ignore.Stack`, `Ignore.Stack.ignores`.

Does not own: the walk (`Walk`).
-/

namespace BacklogTrace.Ignore

/-- The levels that an entry of a walk is asked about. -/
structure Stack where
  /-- The directories of the walk, the nearest first. -/
  walked : List Level
  /-- The directories above the walk, the nearest first. -/
  above : List Level
  /-- The path of the root of the walk from the top. -/
  base : Path
  /-- The path of the root of the walk as it is walked. -/
  root : Path
deriving Repr, Inhabited

def Stack.push (stack : Stack) (level : Level) : Stack :=
  { stack with walked := level :: stack.walked }

/-- A level together with the path by which an entry is known to it. -/
abbrev Question := Level × Bytes

/-- The path from the top of an entry of a walk. -/
def Stack.pathFromTop (stack : Stack) (path : Bytes) : Bytes :=
  let below :=
    if stack.root.components = [.here] then
      path
    else
      match (dropDotSlash stack.root.spelling).isPrefixOf? path with
      | none => path
      | some rest => dropSlash rest
  (stack.base.join ⟨below⟩).spelling

/-- The levels to ask about an entry, the nearest first. -/
def Stack.questions (stack : Stack) (path : Path) : List Question :=
  let plain := dropDotSlash path.spelling
  stack.walked.map (fun level => (level, plain)) ++
    stack.above.map (fun level => (level, stack.pathFromTop plain))

/-- The first opinion on an entry in the files of one kind. -/
def firstVerdict? (kind : Kind) (isDirectory : Bool) (questions : List Question) :
    Option Verdict :=
  questions.findSome? fun question => question.1.verdict? kind question.2 isDirectory

/-- The levels up to the top of the innermost working tree. -/
def upToTop : List Question → List Question
  | [] => []
  | question :: questions =>
      if question.1.isTop then [question] else question :: upToTop questions

def Stack.verdict? (stack : Stack) (path : Path) (isDirectory : Bool) : Option Verdict :=
  let questions := stack.questions path
  let inTree := if questions.any (·.1.isTop) then upToTop questions else []
  (firstVerdict? .ignore isDirectory questions).or
    ((firstVerdict? .gitIgnore isDirectory inTree).or
      (firstVerdict? .gitExclude isDirectory inTree))

def Stack.ignores (stack : Stack) (path : Path) (isDirectory : Bool) : Bool :=
  stack.verdict? path isDirectory == some .ignored

end BacklogTrace.Ignore
