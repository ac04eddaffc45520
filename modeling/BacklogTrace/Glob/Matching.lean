import BacklogTrace.Glob.Token
import BacklogTrace.Path.Basic

/-!
Contract: which paths a pattern matches.

Matching works on the bytes of the whole path, from the end of the pattern to
its beginning. What is kept is one answer for each suffix of the path, the
longest first: whether the part of the pattern that has been seen matches it.
Each token turns the answers for what follows it into the answers for itself, so
the work is the length of the path for each token, however many stars there are.

Owns: `Glob.Pattern.isMatch`.

Does not own: which path is given, relative to what.
-/

namespace BacklogTrace.Glob

/-- For each suffix of a path, the longest first, whether a part of a pattern
matches it. -/
abbrev Answers := List Bool

/-- The end of every pattern matches the empty suffix alone. -/
def Answers.atEnd : Bytes → Answers
  | [] => [true]
  | _ :: rest => false :: atEnd rest

/-- One byte that is admitted, and then what follows. -/
def Answers.afterByte (admits : UInt8 → Bool) : Bytes → Answers → Answers
  | byte :: rest, _ :: answers =>
      (admits byte && answers.headD false) :: afterByte admits rest answers
  | _, _ => [false]

/-- Any number of bytes that are admitted, and then what follows. -/
def Answers.afterRun (admits : UInt8 → Bool) : Bytes → Answers → Answers
  | byte :: rest, here :: answers =>
      let further := afterRun admits rest answers
      (here || (admits byte && further.headD false)) :: further
  | _, answers => answers

/-- Anything that ends in a slash, and then what follows. -/
def Answers.afterSlash : Bytes → Answers → Answers
  | byte :: rest, _ :: answers =>
      let further := afterSlash rest answers
      ((byte == Path.slash && answers.headD false) || further.headD false) :: further
  | _, _ => [false]

def Answers.either (left right : Answers) : Answers :=
  List.zipWith (fun one other => one || other) left right

/-- Whether a byte belongs to a range of characters. Where an end takes several
bytes only those next to the hyphen bound the range; the others stand for
themselves. -/
def rangeAdmits (byte : UInt8) (range : Char × Char) : Bool :=
  let low := String.utf8EncodeChar range.1
  let high := String.utf8EncodeChar range.2
  if range.1 = range.2 then
    low.contains byte
  else
    (decide (low.getLastD 0 ≤ byte) && decide (byte ≤ high.headD 0)) ||
      low.dropLast.contains byte || high.tail.contains byte

mutual

/-- Whether a token matches nothing but the empty path, and is written as
nothing. -/
def Token.isVoid : Token → Bool
  | .alternates branches => areVoidBranches branches
  | _ => false

def areVoid : List Token → Bool
  | [] => true
  | token :: tokens => token.isVoid && areVoid tokens

def areVoidBranches : List (List Token) → Bool
  | [] => true
  | branch :: branches => areVoid branch && areVoidBranches branches

end

mutual

def Token.answers (literalSeparator : Bool) (path : Bytes) : Token → Answers → Answers
  | .literal character, after =>
      (String.utf8EncodeChar character).foldr
        (fun byte answers => Answers.afterByte (· == byte) path answers) after
  | .anyByte, after =>
      Answers.afterByte (fun byte => !(literalSeparator && byte == Path.slash)) path after
  | .anyRun, after =>
      Answers.afterRun (fun byte => !(literalSeparator && byte == Path.slash)) path after
  | .leadingDirectories, after => Answers.either after (Answers.afterSlash path after)
  | .trailingEntries, after =>
      Answers.afterByte (· == Path.slash) path (Answers.afterRun (fun _ => true) path after)
  | .innerDirectories, after =>
      Answers.afterByte (· == Path.slash) path
        (Answers.either after (Answers.afterSlash path after))
  | .byteClass negated ranges, after =>
      Answers.afterByte (fun byte => ranges.any (rangeAdmits byte) != negated) path after
  | .alternates branches, after =>
      if areVoidBranches branches then
        after
      else
        answersOfBranches literalSeparator path branches after

def answersOfAll (literalSeparator : Bool) (path : Bytes) : List Token → Answers → Answers
  | [], after => after
  | token :: tokens, after =>
      token.answers literalSeparator path (answersOfAll literalSeparator path tokens after)

/-- The answers for any of the alternatives that are not void. -/
def answersOfBranches (literalSeparator : Bool) (path : Bytes) :
    List (List Token) → Answers → Answers
  | [], after => after.map fun _ => false
  | branch :: branches, after =>
      if areVoid branch then
        answersOfBranches literalSeparator path branches after
      else
        Answers.either (answersOfAll literalSeparator path branch after)
          (answersOfBranches literalSeparator path branches after)

end

/-- Whether a pattern matches a whole path. Two stars alone match everything. -/
def Pattern.isMatch (pattern : Pattern) (path : Bytes) : Bool :=
  match pattern.tokens with
  | [.leadingDirectories] => true
  | tokens =>
      (answersOfAll pattern.literalSeparator path tokens (Answers.atEnd path)).headD false

end BacklogTrace.Glob
