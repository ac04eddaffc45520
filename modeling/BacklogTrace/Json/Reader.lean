import BacklogTrace.Json.Value

/-!
Contract: reading the JSON value that a text begins with.

The reader is lenient in four ways: what follows the value is not read, a comma
may stand before a closing bracket, a backslash before any character that has no
meaning there is dropped, and a string may hold any character but the quote and
the backslash as it is. Half a surrogate pair is refused.

A string is read by a machine with one step for each character. Values are read
by recursion with a bound on its depth, for which twice the length of the text
is enough, since every second step reads a character.

Owns: `Json.readString`, `Json.read?`.

Does not own: what the value is read for (`Config.Reader`).
-/

namespace BacklogTrace.Json

/-- Where the reading of a string stands. -/
inductive StringProgress where
  | plain
  | escaped
  /-- Inside the digits of a number, of which some are missing. -/
  | number (missing value : Nat)
  /-- After the first half of a surrogate pair. -/
  | halved (high : Nat)
  /-- After the backslash that follows such a half. -/
  | halvedEscaped (high : Nat)
  /-- Inside the digits of the second half. -/
  | secondNumber (high missing value : Nat)
deriving DecidableEq, Repr

def unescape (character : Char) : Char :=
  if character = 'n' then '\n'
  else if character = 'r' then '\r'
  else if character = 't' then '\t'
  else if character = 'b' then '\x08'
  else if character = 'f' then '\x0c'
  else character

/-- Whether a number is the first half of a surrogate pair. -/
def isHighHalf (value : Nat) : Bool :=
  decide (0xd800 ≤ value) && decide (value < 0xdc00)

/-- Whether a number is the second half of a surrogate pair. -/
def isLowHalf (value : Nat) : Bool :=
  decide (0xdc00 ≤ value) && decide (value < 0xe000)

/-- The end of a number: a character, or the first half of one. -/
def closeNumber (value : Nat) : Option (Text × StringProgress) :=
  if isHighHalf value then
    some ([], .halved value)
  else if isLowHalf value then
    none
  else
    some ([Char.ofNat value], .plain)

def closeSecondNumber (high value : Nat) : Option (Text × StringProgress) :=
  if isLowHalf value then
    some ([Char.ofNat (0x10000 + (high - 0xd800) * 0x400 + (value - 0xdc00))], .plain)
  else
    none

def stepString : StringProgress → Char → Option (Text × StringProgress)
  | .plain, character =>
      if character = '\\' then some ([], .escaped) else some ([character], .plain)
  | .escaped, character =>
      if character = 'u' then some ([], .number 3 0) else some ([unescape character], .plain)
  | .number missing value, character =>
      match hexValue? character with
      | none => none
      | some digit =>
          match missing with
          | 0 => closeNumber (value * 16 + digit)
          | rest + 1 => some ([], .number rest (value * 16 + digit))
  | .halved high, character =>
      if character = '\\' then some ([], .halvedEscaped high) else none
  | .halvedEscaped high, character =>
      if character = 'u' then some ([], .secondNumber high 3 0) else none
  | .secondNumber high missing value, character =>
      match hexValue? character with
      | none => none
      | some digit =>
          match missing with
          | 0 => closeSecondNumber high (value * 16 + digit)
          | rest + 1 => some ([], .secondNumber high rest (value * 16 + digit))

/-- Reads the rest of a string and its quote: its content, and what follows. -/
def readString (progress : StringProgress) : Text → Option (Text × Text)
  | [] => none
  | character :: rest =>
      if progress = .plain ∧ character = '"' then
        some ([], rest)
      else
        match stepString progress character with
        | none => none
        | some (read, next) =>
            match readString next rest with
            | none => none
            | some (content, after) => some (read ++ content, after)

/-- The digits that a text begins with, at least one, and what follows. -/
def readDigits (text : Text) : Option (Text × Text) :=
  if (text.takeWhile Char.isDigit).isEmpty then
    none
  else
    some (text.takeWhile Char.isDigit, text.dropWhile Char.isDigit)

/-- The whole part of a number, which is a zero or begins with another digit. -/
def readWhole (text : Text) : Option (Text × Text) :=
  match text with
  | '0' :: rest => some (['0'], rest)
  | _ => readDigits text

/-- The fraction that a text begins with, if any, and what follows. -/
def readFraction (text : Text) : Option (Text × Text) :=
  match text with
  | '.' :: rest => (readDigits rest).map fun (digits, after) => ('.' :: digits, after)
  | _ => some ([], text)

/-- The sign that a text begins with, if any, and what follows. -/
def readSign (signs : List Char) : Text → Text × Text
  | [] => ([], [])
  | character :: rest =>
      if signs.contains character then ([character], rest) else ([], character :: rest)

/-- The exponent that a text begins with, if any, and what follows. -/
def readExponent : Text → Option (Text × Text)
  | [] => some ([], [])
  | mark :: rest =>
      if mark = 'e' ∨ mark = 'E' then
        let (sign, unsigned) := readSign ['+', '-'] rest
        (readDigits unsigned).map fun (digits, after) => (mark :: (sign ++ digits), after)
      else
        some ([], mark :: rest)

def readNumber (text : Text) : Option (Text × Text) :=
  let (sign, unsigned) := readSign ['-'] text
  match readWhole unsigned with
  | none => none
  | some (whole, afterWhole) =>
      match readFraction afterWhole with
      | none => none
      | some (fraction, afterFraction) =>
          match readExponent afterFraction with
          | none => none
          | some (exponent, after) => some (sign ++ whole ++ fraction ++ exponent, after)

def readScalar (text : Text) : Option (Json × Text) :=
  match "null".toList.isPrefixOf? text with
  | some after => some (.null, after)
  | none =>
      match "true".toList.isPrefixOf? text with
      | some after => some (.boolean true, after)
      | none =>
          match "false".toList.isPrefixOf? text with
          | some after => some (.boolean false, after)
          | none =>
              match readNumber text with
              | none => none
              | some (literal, after) => some (.number literal, after)

def readKey (text : Text) : Option (Text × Text) :=
  match text with
  | '"' :: rest =>
      match readString .plain rest with
      | none => none
      | some (key, afterKey) =>
          match skipSpace afterKey with
          | ':' :: after => some (key, after)
          | _ => none
  | _ => none

mutual

def readValue : Nat → Text → Option (Json × Text)
  | 0, _ => none
  | bound + 1, text =>
      match skipSpace text with
      | '{' :: rest => (readMembers bound rest).map fun (members, after) => (.object members, after)
      | '[' :: rest => (readElements bound rest).map fun (elements, after) => (.array elements, after)
      | '"' :: rest => (readString .plain rest).map fun (content, after) => (.string content, after)
      | other => readScalar other

/-- The elements up to the bracket that closes them, and what follows. -/
def readElements : Nat → Text → Option (List Json × Text)
  | 0, _ => none
  | bound + 1, text =>
      match skipSpace text with
      | ']' :: after => some ([], after)
      | other =>
          match readValue bound other with
          | none => none
          | some (element, rest) =>
              match skipSpace rest with
              | ']' :: after => some ([element], after)
              | ',' :: rest =>
                  (readElements bound rest).map fun (elements, after) =>
                    (element :: elements, after)
              | _ => none

/-- The members up to the brace that closes them, and what follows. -/
def readMembers : Nat → Text → Option (List (Text × Json) × Text)
  | 0, _ => none
  | bound + 1, text =>
      match skipSpace text with
      | '}' :: after => some ([], after)
      | other =>
          match readKey other with
          | none => none
          | some (key, afterKey) =>
              match readValue bound afterKey with
              | none => none
              | some (value, rest) =>
                  match skipSpace rest with
                  | '}' :: after => some ([(key, value)], after)
                  | ',' :: rest =>
                      (readMembers bound rest).map fun (members, after) =>
                        ((key, value) :: members, after)
                  | _ => none

end

def read? (text : Text) : Option Json :=
  (readValue (2 * text.length + 2) text).map Prod.fst

end BacklogTrace.Json
