import BacklogTrace.Glob.Reader
import BacklogTrace.Glob.Matching

/-!
Contract: the lines of ignore files.

A line is a pattern, an exclamation mark before which keeps what it matches. A
pattern with a slash begins at the directory of its file; any other matches in
every directory below. A trailing slash admits directories only. The last rule
that matches decides.

Owns: `Ignore.Rule`, `Ignore.Rule.read`, `Ignore.Verdict`, `Ignore.decide`.

Does not own: which files rules are read from (`Ignore.Directory`).
-/

namespace BacklogTrace.Ignore

structure Rule where
  pattern : Glob.Pattern
  /-- Whether the rule keeps what it matches. -/
  keeps : Bool
  onlyDirectories : Bool
deriving Repr, Inhabited

inductive Verdict where
  | ignored
  | kept
deriving DecidableEq, Repr

/-- The line without the layout at its end, unless a backslash holds the last
space. -/
def trimLine (line : Text) : Text :=
  if "\\ ".toList.isSuffixOf line then line else Text.trimEnd line

/-- A line whose beginning has been read. -/
structure Body where
  keeps : Bool
  /-- Whether a slash bound the pattern to the directory of its file. -/
  anchored : Bool
  text : Text
deriving DecidableEq, Repr

/-- Reads the beginning of a line: a backslash before a mark makes it an ordinary
character, an exclamation mark keeps, and a slash anchors. -/
def readBody (line : Text) : Body :=
  if "\\!".toList.isPrefixOf line || "\\#".toList.isPrefixOf line then
    ⟨false, false, line.drop 1⟩
  else
    let keeps : Bool := line.head? == some '!'
    let rest := if keeps then line.drop 1 else line
    if rest.head? == some '/' then ⟨keeps, true, rest.drop 1⟩ else ⟨keeps, false, rest⟩

/-- Reads the end of a pattern: whether a slash admits directories only, and the
pattern without it and without a backslash before it. -/
def readEnd (text : Text) : Bool × Text :=
  if text.getLast? == some '/' then
    let shorter := text.dropLast
    (true, if shorter.getLast? == some '\\' then shorter.dropLast else shorter)
  else
    (false, text)

/-- The pattern as it is matched from the directory of its file: without a slash
of its own it may begin in any directory, and two stars at its end match what is
inside a directory and not the directory. -/
def widen (anchored : Bool) (text : Text) : Text :=
  let begun :=
    if anchored || text.contains '/' || text == "**".toList then
      text
    else
      "**/".toList ++ text
  if "/**".toList.isSuffixOf begun then begun ++ "/*".toList else begun

/-- The rule of a line. Comments, blank lines and bad patterns are none. -/
def Rule.read? (line : Text) : Option Rule :=
  let trimmed := trimLine line
  if line.head? == some '#' || trimmed.isEmpty then
    none
  else
    let body := readBody trimmed
    let (onlyDirectories, text) := readEnd body.text
    match Glob.readTokens true (widen body.anchored text) with
    | .error _ => none
    | .ok tokens => some ⟨⟨tokens, true⟩, body.keeps, onlyDirectories⟩

def Rule.applies (rule : Rule) (path : Bytes) (isDirectory : Bool) : Bool :=
  (!rule.onlyDirectories || isDirectory) && rule.pattern.isMatch path

def Rule.verdict (rule : Rule) : Verdict :=
  if rule.keeps then .kept else .ignored

/-- The verdict of the last rule that applies. -/
def decide? (rules : List Rule) (path : Bytes) (isDirectory : Bool) : Option Verdict :=
  (rules.reverse.find? fun rule => rule.applies path isDirectory).map Rule.verdict

end BacklogTrace.Ignore
