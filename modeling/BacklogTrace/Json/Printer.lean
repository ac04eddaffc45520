import BacklogTrace.Json.Value

/-!
Contract: the written form of a JSON value over several lines.

Every element and every member stands on a line of its own, two spaces further
in than its brackets; empty brackets stay together. In strings the quote, the
backslash, the control characters of ASCII and nothing else are escaped.

Owns: `Json.quote`, `Json.pretty`.

Does not own: which values are written (`Report.json`).
-/

namespace BacklogTrace.Json

/-- The escape of a character by its number. -/
def escapeNumber (character : Char) : Text :=
  ['\\', 'u', '0', '0', hexDigit (character.toNat / 16), hexDigit (character.toNat % 16)]

def escape (character : Char) : Text :=
  if character = '"' then ['\\', '"']
  else if character = '\\' then ['\\', '\\']
  else if character = '\n' then ['\\', 'n']
  else if character = '\r' then ['\\', 'r']
  else if character = '\t' then ['\\', 't']
  else if character = '\x08' then ['\\', 'b']
  else if character = '\x0c' then ['\\', 'f']
  else if character.toNat < 0x20 ∨ character.toNat = 0x7f then escapeNumber character
  else [character]

def quote (content : Text) : Text :=
  '"' :: (content.flatMap escape ++ ['"'])

def newLine (depth : Nat) : Text :=
  '\n' :: List.replicate (2 * depth) ' '

/-- Items between brackets, each on a line of its own. -/
def bracket (opening closing : Char) (depth : Nat) : List Text → Text
  | [] => [opening, closing]
  | items =>
      opening :: ([','].intercalate (items.map fun item => newLine (depth + 1) ++ item) ++
        (newLine depth ++ [closing]))

mutual

/-- The written form of a value at a depth. -/
def prettyAt (depth : Nat) : Json → Text
  | .null => "null".toList
  | .boolean true => "true".toList
  | .boolean false => "false".toList
  | .number literal => literal
  | .string content => quote content
  | .array elements => bracket '[' ']' depth (prettyElements (depth + 1) elements)
  | .object members => bracket '{' '}' depth (prettyMembers (depth + 1) members)

def prettyElements (depth : Nat) : List Json → List Text
  | [] => []
  | element :: elements => prettyAt depth element :: prettyElements depth elements

def prettyMembers (depth : Nat) : List (Text × Json) → List Text
  | [] => []
  | (key, value) :: members =>
      (quote key ++ ':' :: ' ' :: prettyAt depth value) :: prettyMembers depth members

end

def pretty (value : Json) : Text :=
  prettyAt 0 value

end BacklogTrace.Json
