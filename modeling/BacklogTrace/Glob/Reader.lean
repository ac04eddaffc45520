import BacklogTrace.Glob.Token

/-!
Contract: reading a pattern.

A pattern is read from left to right into a draft: the tokens of the innermost
open alternative, and for each pair of braces around it what surrounds it. Two
stars are a token of their own where they are a whole component, judged by the
characters on both sides; elsewhere they are two runs. A class may take several
characters at once, and so may two stars; the reader then skips what has been
taken.

Owns: `Glob.readTokens`.

Does not own: the rewriting of a pattern before it is read (`Glob.Filter`,
`Ignore.Rule`).
-/

namespace BacklogTrace.Glob

/-- An open pair of braces: the tokens before it, and its finished
alternatives. -/
structure Frame where
  before : List Token
  finished : List (List Token)
deriving Repr, Inhabited

structure Draft where
  /-- The open braces, the innermost first. -/
  frames : List Frame
  tokens : List Token
deriving Repr, Inhabited

def Draft.push (draft : Draft) (token : Token) : Draft :=
  { draft with tokens := draft.tokens ++ [token] }

/-- Two stars that are no whole component. -/
def Draft.pushTwoRuns (draft : Draft) : Draft :=
  (draft.push .anyRun).push .anyRun

/-- Two stars that are a whole component after another token. They take in the
slash that was read before them, and add nothing to two stars before that. -/
def Draft.pushDirectories (draft : Draft) (endsPattern : Bool) : Draft :=
  let token : Token :=
    match draft.tokens.getLast? with
    | some .leadingDirectories => .leadingDirectories
    | some .trailingEntries => .trailingEntries
    | _ => if endsPattern then .trailingEntries else .innerDirectories
  { draft with tokens := draft.tokens.dropLast ++ [token] }

/-- Reads two stars between the given characters: the draft, and how many
characters after the first star have been taken. -/
def Draft.readStars (draft : Draft) (previous next : Option Char) : Draft × Nat :=
  if draft.tokens.isEmpty then
    match next with
    | none => (draft.push .leadingDirectories, 1)
    | some '/' => (draft.push .leadingDirectories, 2)
    | some _ => (draft.pushTwoRuns, 1)
  else if previous ≠ some '/' ∧
      (draft.frames.isEmpty ∨ (previous ≠ some ',' ∧ previous ≠ some '{')) then
    (draft.pushTwoRuns, 1)
  else
    match next with
    | none => (draft.pushDirectories true, 1)
    | some '/' => (draft.pushDirectories false, 2)
    | some character =>
        if !draft.frames.isEmpty && (character == ',' || character == '}') then
          (draft.pushDirectories true, 1)
        else
          (draft.pushTwoRuns, 1)

def Draft.openBraces (draft : Draft) : Draft where
  frames := ⟨draft.tokens, []⟩ :: draft.frames
  tokens := []

/-- Ends an alternative, inside braces; elsewhere a comma is itself. -/
def Draft.readComma (draft : Draft) : Draft :=
  match draft.frames with
  | [] => draft.push (.literal ',')
  | frame :: frames =>
      ⟨⟨frame.before, frame.finished ++ [draft.tokens]⟩ :: frames, []⟩

def Draft.closeBraces (draft : Draft) : Except Fault Draft :=
  match draft.frames with
  | [] => .error .unopenedAlternates
  | frame :: frames =>
      .ok ⟨frames, frame.before ++ [.alternates (frame.finished ++ [draft.tokens])]⟩

/-- A class that has been read in part: its ranges, the last one first, and
whether a hyphen waits for the end of the last one. -/
structure ClassDraft where
  ranges : List (Char × Char)
  inRange : Bool
deriving Repr

/-- Reads a character of a class. A hyphen stands for itself at the start, at
the end, and as the end of a range. -/
def ClassDraft.read (draft : ClassDraft) (character : Char) : Except Fault ClassDraft :=
  match draft.ranges, draft.inRange with
  | (low, _) :: others, true =>
      if character < low then .error .invalidRange else .ok ⟨(low, character) :: others, false⟩
  | (low, high) :: others, false =>
      if character = '-' then
        .ok ⟨(low, high) :: others, true⟩
      else
        .ok ⟨(character, character) :: (low, high) :: others, false⟩
  | [], _ => .ok ⟨[(character, character)], false⟩

def ClassDraft.close (draft : ClassDraft) : List (Char × Char) :=
  (if draft.inRange then ('-', '-') :: draft.ranges else draft.ranges).reverse

/-- Reads the rest of a class up to its bracket: its ranges, and how many
characters have been taken. A bracket that comes first stands for itself. -/
def readClassFrom (taken : Nat) (draft : ClassDraft) :
    Text → Except Fault (Option (List (Char × Char) × Nat))
  | [] => .ok none
  | character :: rest =>
      if character = ']' ∧ !draft.ranges.isEmpty then
        .ok (some (draft.close, taken + 1))
      else
        match draft.read character with
        | .error fault => .error fault
        | .ok next => readClassFrom (taken + 1) next rest

/-- Reads a class after its opening bracket: the token, and how many characters
have been taken. There is none if the class is not closed. -/
def readClass (text : Text) : Except Fault (Option (Token × Nat)) :=
  let negated : Bool := text.head? == some '!' || text.head? == some '^'
  let body := if negated then text.drop 1 else text
  match readClassFrom 0 ⟨[], false⟩ body with
  | .error fault => .error fault
  | .ok none => .ok none
  | .ok (some (ranges, taken)) =>
      .ok (some (.byteClass negated ranges, if negated then taken + 1 else taken))

/-- Where the reader stands: the draft, how many characters of the rest have
been taken already, whether brackets are known to open no class, and the
character before the rest. -/
structure Position where
  draft : Draft
  skip : Nat
  plainBrackets : Bool
  previous : Option Char
deriving Repr

def Position.read
    (unclosedClassIsLiteral : Bool)
    (position : Position)
    (character : Char)
    (rest : Text) :
    Except Fault Position :=
  let draft := position.draft
  let after (next : Draft) (skip : Nat) : Except Fault Position :=
    .ok ⟨next, skip, position.plainBrackets, some character⟩
  match character with
  | '?' => after (draft.push .anyByte) 0
  | '*' =>
      match rest with
      | '*' :: beyond =>
          let (next, skip) := draft.readStars position.previous beyond.head?
          after next skip
      | _ => after (draft.push .anyRun) 0
  | '{' => after draft.openBraces 0
  | '}' =>
      match draft.closeBraces with
      | .error fault => .error fault
      | .ok next => after next 0
  | ',' => after draft.readComma 0
  | '\\' =>
      match rest with
      | [] => .error .danglingEscape
      | escaped :: _ => after (draft.push (.literal escaped)) 1
  | '[' =>
      if position.plainBrackets then
        after (draft.push (.literal '[')) 0
      else
        match readClass rest with
        | .error fault => .error fault
        | .ok (some (token, taken)) => after (draft.push token) taken
        | .ok none =>
            if unclosedClassIsLiteral then
              .ok ⟨draft.push (.literal '['), 0, true, some character⟩
            else
              .error .unclosedClass
  | _ => after (draft.push (.literal character)) 0

def readFrom (unclosedClassIsLiteral : Bool) (position : Position) :
    Text → Except Fault Draft
  | [] => .ok position.draft
  | character :: rest =>
      match position.skip with
      | skip + 1 =>
          readFrom unclosedClassIsLiteral
            { position with skip := skip, previous := some character } rest
      | 0 =>
          match position.read unclosedClassIsLiteral character rest with
          | .error fault => .error fault
          | .ok next => readFrom unclosedClassIsLiteral next rest

/-- The tokens of a pattern. Where it is allowed, a bracket that no other closes
stands for itself. -/
def readTokens (unclosedClassIsLiteral : Bool) (text : Text) : Except Fault (List Token) :=
  match readFrom unclosedClassIsLiteral ⟨⟨[], []⟩, 0, false, none⟩ text with
  | .error fault => .error fault
  | .ok draft => if draft.frames.isEmpty then .ok draft.tokens else .error .unclosedAlternates

end BacklogTrace.Glob
